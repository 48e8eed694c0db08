import Reckon.Error
import Reckon.Token.Basic
import Reckon.Tree.Basic

/-!
A cursor in a list of tokens, and the small steps of the builder on it. The cursor keeps what it has
passed, latest first, and for every level of nesting reached so far the token that reached it first,
deepest level first. A refusal leaves the cursor where it was, so that the token at fault can be
read off. At the end of the tokens the cursor shows a token of the kind `stop`.
-/

namespace Reckon

structure Cursor where
  passed : List Token
  rest : List Token
  stop : Nat
  crest : List Nat

/-- Why the builder gives up. -/
inductive Refusal.Cause
  | parse (fault : ParseFault)
  | nesting (limit : Int)
  | fault (f : Fault)
  deriving DecidableEq, Repr

structure Refusal where
  cause : Refusal.Cause
  pos : Nat
  deriving DecidableEq, Repr

/-- The refusal as an error in a source, or in tokens without one. -/
def Refusal.error (source : Option String) (r : Refusal) : Error :=
  match r.cause with
  | .parse f => .parse f ⟨source, r.pos⟩
  | .nesting limit => .nesting limit ⟨source, r.pos⟩
  | .fault f => .fault f

namespace Cursor

/-- The tokens before the first `stop`, which gives the offset of the end; without one the end is
where the last token ends. -/
def ofTokens (ts : List Token) : Cursor :=
  let w := ts.takeWhile (·.kind ≠ .stop)
  let stop := match ts.find? (·.kind = .stop), w.getLast? with
    | some t, _ => t.pos
    | none, some t => t.pos + t.text.length
    | none, none => 0
  ⟨[], w, stop, []⟩

def current (c : Cursor) : Token :=
  c.rest.headD ⟨.stop, "", c.stop⟩

def next (c : Cursor) : Token :=
  c.rest.tail.headD ⟨.stop, "", c.stop⟩

def advance (c : Cursor) : Cursor :=
  match c.rest with
  | [] => c
  | t :: ts => { c with passed := t :: c.passed, rest := ts }

/-- Notes that token `t` opens the level after `depth`, if no token did before. -/
def opened (c : Cursor) (depth : Nat) (t : Token) : Cursor :=
  if c.crest.length ≤ depth then { c with crest := t.pos :: c.crest } else c

/-- What is wrong with a token that can neither begin nor continue an operand here. -/
def misplaced (c : Cursor) : ParseFault :=
  let t := c.current
  let ends := t.kind = .stop ∨ t.kind = .closing
  match c.passed.head? with
  | some p =>
    if ends ∧ p.kind.wantsOperand then .missingAfter p.text else alone t
  | none => alone t
where
  alone (t : Token) : ParseFault :=
    match t.kind with
    | .stop => .ended
    | .closing => .unmatchedClose
    | .assign => .assignment
    | .binary _ | .comma => .missingBefore t.text
    | k => .unexpected k.label t.text

end Cursor

/-- A step of the builder: it moves the cursor and gives a result or a refusal. -/
abbrev Builder := EStateM Refusal Cursor

namespace Builder

def current : Builder Token :=
  return (← get).current

/-- Passes the current token and gives it. -/
def advance : Builder Token := do
  let c ← get
  set c.advance
  return c.current

def refuse {α : Type} (f : ParseFault) (t : Token) : Builder α :=
  throw ⟨.parse f, t.pos⟩

def fault {α : Type} (f : Fault) : Builder α := do
  throw ⟨.fault f, (← current).pos⟩

/-- Refuses the current token. -/
def misplaced {α : Type} : Builder α := do
  let c ← get
  refuse c.misplaced c.current

/-- Opens the level after `depth` at token `t`, unless that is beyond the limit. -/
def enter (limit : Int) (depth : Nat) (t : Token) : Builder Unit := do
  if limit < depth + 1 then throw ⟨.nesting limit, t.pos⟩
  modify (·.opened depth t)

/-- Passes the closing parenthesis; `f` is the fault of the opening one `t` if the tokens end. -/
def close (f : ParseFault) (t : Token) : Builder Unit := do
  match (← current).kind with
  | .closing => discard advance
  | .stop => refuse f t
  | _ => misplaced

/-- One round for each token that is left, and one for the end: a loop that passes a token in every
round but the last does not need more. -/
def rounds : Builder (List Token) := do
  let c ← get
  return ⟨.stop, "", c.stop⟩ :: c.rest

end Builder

end Reckon
