import Reckon.Decimal.Reading
import Reckon.Text.Numeral
import Reckon.Tree.Cursor

/-!
Building a tree from tokens by precedence climbing. Six rules call each other: a sequence of
elements separated by commas, a chain of binary operators of at least some level, a prefix operator,
a primary, a group in parentheses and a call. A non-empty group, a prefix operator, the right side
of `^` and a call each open a level of nesting, and a level beyond the limit is refused at the token
that opens it. The number of rules active at once has a bound of its own, which `allowance` computes
from the limit and `build` never exceeds.
-/

namespace Reckon

inductive Rule
  | sequence
  | chain (least : Nat)
  | signed
  | primary
  | group
  | call
  deriving DecidableEq, Repr

namespace Builder

/-- The level of the operators that may stand in an element of a sequence. -/
def elementLevel : Nat := 2

/-- Further elements, each after a comma, in a bounded number of rounds. -/
def elements (element : Builder Tree) : (rounds : List Token) → Builder (List Tree)
  | [] => fault .rules
  | _ :: rounds => do
    if (← current).kind = .comma then
      discard advance
      let t ← element
      return t :: (← elements element rounds)
    else return []

/-- The arguments of a call, up to its closing parenthesis. -/
def arguments (element : Builder Tree) : Builder (List Tree) := do
  if (← current).kind = .closing then return []
  let t ← element
  return t :: (← elements element (← rounds))

/-- Extends the tree `l` by the binary operators of at least the level `least` that follow it, in a
bounded number of rounds; `right` reads the right side of an operator. -/
def climb (right : Binary → Token → Builder Tree) (least : Nat) :
    (rounds : List Token) → Tree → Builder Tree
  | [], _ => fault .rules
  | _ :: rounds, l => do
    match (← current).kind with
    | .binary op =>
      if op.level < least then return l
      let t ← advance
      let r ← right op t
      climb right least rounds (.binary op l r)
    | _ => return l

/-- The literal that the token stands for, if it stands for one. -/
def literal? (t : Token) : Option (Except Fault Value) :=
  match t.kind with
  | .int => some <|
    match Text.readInt t.text with
    | .ok n => if InRange n then .ok (.int n) else .error (.range n)
    | .error .malformed => .error (.integer t.text)
    | .error (.digits count) => .error (.digits count)
  | .float => some <|
    match Decimal.read? t.text with
    | some x => .ok (.float x)
    | none => .error (.decimal t.text)
  | .string => some (.ok (.string t.text))
  | .yes => some (.ok (.boolean true))
  | .no => some (.ok (.boolean false))
  | _ => none

/-- One rule at some depth of nesting; at most `active` rules may be active at once. -/
def rule (limit : Int) : (active : Nat) → Rule → (depth : Nat) → Builder Tree
  | 0, _, _ => fault .rules
  | active + 1, r, depth =>
    match r with
    | .sequence => do
      let element := rule limit active (.chain elementLevel) depth
      let t ← element
      if (← current).kind = .comma then
        return .tuple (t :: (← elements element (← rounds)))
      else return t
    | .chain least => do
      let l ← rule limit active .signed depth
      let right op t := do
        if op.rightAssociative then
          enter limit depth t
          rule limit active (.chain op.level) (depth + 1)
        else rule limit active (.chain (op.level + 1)) depth
      climb right least (← rounds) l
    | .signed => do
      match (← current).kind with
      | .unary op =>
        let t ← advance
        enter limit depth t
        return .unary op (← rule limit active .signed (depth + 1))
      | _ => rule limit active .primary depth
    | .primary => do
      let c ← get
      let t := c.current
      match literal? t with
      | some (.ok v) =>
        discard advance
        return .literal v
      | some (.error f) => fault f
      | none =>
        match t.kind with
        | .opening => rule limit active .group depth
        | .name =>
          if c.next.kind = .opening then rule limit active .call depth
          else
            discard advance
            return .name t.text
        | _ => misplaced
    | .group => do
      let t ← advance
      if (← current).kind = .closing then
        discard advance
        return .literal .empty
      enter limit depth t
      let e ← rule limit active .sequence (depth + 1)
      close .unmatchedOpen t
      return e
    | .call => do
      let f ← advance
      let t ← advance
      enter limit depth t
      let args ← arguments (rule limit active (.chain elementLevel) (depth + 1))
      close (.unmatchedCall f.text) t
      return .call f.text args

/-- How many rules can be active at once under a limit: eleven for each level that may be open. -/
def allowance (limit : Int) : Nat :=
  11 * (limit.toNat + 1)

/-- The tree of all the tokens. -/
def whole (limit : Int) : Builder Tree := do
  if (← current).kind = .stop then refuse .nothing (← current)
  let t ← rule limit (allowance limit) .sequence 0
  let last ← current
  match last.kind with
  | .stop => return t
  | .closing => refuse .unmatchedClose last
  | .assign => refuse .assignment last
  | _ => refuse (.trailing last.text) last

end Builder

/-- The tree of a list of tokens up to its first `stop`, and with the cursor where
the builder ended. -/
def Tree.run (limit : Int) (ts : List Token) : EStateM.Result Refusal Cursor Tree :=
  (Builder.whole limit).run (.ofTokens ts)

def Tree.build (source : Option String) (limit : Int) (ts : List Token) : Except Error Tree :=
  match Tree.run limit ts with
  | .ok t _ => .ok t
  | .error r _ => .error (r.error source)

end Reckon
