import Reckon.Evaluate.Machine

/-!
The meaning of a tree, by recursion on the tree: operands from left to right before their operator,
the right side of `&&` and `||` only if the left side leaves the result open, and a check of the
depth before anything else of a node. The machine does the same without recursion.
-/

namespace Reckon.Tree

open Evaluate (lift)

variable {σ : Type}

mutual

def value (b : Bindings σ) (limit : Int) : Tree → Nat → Run σ Value
  | literal v, depth => do
    if limit < depth then throw (.depth limit)
    return v
  | name n, depth => do
    if limit < depth then throw (.depth limit)
    match b.lookup n (← get) with
    | none => throw (.lookup .variable n)
    | some v => return v
  | unary op t, depth => do
    if limit < depth then throw (.depth limit)
    lift (op.apply (← value b limit t (depth + 1)))
  | binary op l r, depth => do
    if limit < depth then throw (.depth limit)
    let v ← value b limit l depth
    if op.logical then
      let c ← lift (op.truth v)
      if c = (op = .or) then return .boolean c
      return .boolean (← lift (op.truth (← value b limit r depth)))
    lift (op.apply v (← value b limit r (op.rightDepth depth)))
  | call f ts, depth => do
    if limit < depth then throw (.depth limit)
    b.call f (← values b limit ts (depth + 1))
  | tuple ts, depth => do
    if limit < depth then throw (.depth limit)
    return .tuple (← values b limit ts depth)

def values (b : Bindings σ) (limit : Int) : List Tree → Nat → Run σ (List Value)
  | [], _ => return []
  | t :: ts, depth => do
    let v ← value b limit t depth
    return v :: (← values b limit ts depth)

end

end Reckon.Tree
