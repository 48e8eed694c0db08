import Mathlib.Tactic.Lemma
import Reckon.Evaluate.Machine

/-!
The nodes of a tree and how deep they lie: a node lies one level deeper for every prefix operator
whose operand, every `^` whose right side and every call whose argument it is, or lies in. What a
tree reads and what it calls are the names at its nodes.
-/

namespace Reckon.Tree

/-- In the tree `t` the node `u` lies at the depth. -/
inductive Lies (t : Tree) : Nat → Tree → Prop
  | root : Lies t 0 t
  | operand {d : Nat} {op : Unary} {u : Tree} (h : Lies t d (unary op u)) : Lies t (d + 1) u
  | left {d : Nat} {op : Binary} {l r : Tree} (h : Lies t d (binary op l r)) : Lies t d l
  | right {d : Nat} {op : Binary} {l r : Tree} (h : Lies t d (binary op l r)) :
      Lies t (op.rightDepth d) r
  | argument {d : Nat} {f : String} {ts : List Tree} {u : Tree} (h : Lies t d (call f ts))
      (hu : u ∈ ts) :
    Lies t (d + 1) u
  | item {d : Nat} {ts : List Tree} {u : Tree} (h : Lies t d (tuple ts)) (hu : u ∈ ts) : Lies t d u

variable {t u w : Tree} {d e : Nat}

lemma rightDepth_add (op : Binary) (d e : Nat) : op.rightDepth (d + e) = d + op.rightDepth e := by
  rw [Binary.rightDepth, Binary.rightDepth]
  split <;> omega

/-- A node of a node is a node. -/
theorem Lies.trans (h : t.Lies d u) (h' : u.Lies e w) : t.Lies (d + e) w := by
  induction h' with
  | root => exact h
  | operand _ ih => exact .operand ih
  | left _ ih => exact .left ih
  | @right e op l r _ ih =>
    rw [← rightDepth_add]
    exact .right ih
  | argument _ hu ih => exact .argument ih hu
  | item _ hu ih => exact .item ih hu

/-- The root opens a level: it is a prefix operator, a power or a call. -/
def opens : Tree → Bool
  | unary .. | binary (.arith .pow) .. | call .. => true
  | _ => false

/-- The tree reads the variable. -/
def Reads (t : Tree) (n : String) : Prop :=
  ∃ d, t.Lies d (name n)

/-- The tree calls the function. -/
def Calls (t : Tree) (f : String) : Prop :=
  ∃ d ts, t.Lies d (call f ts)

lemma Reads.of_lies {n : String} (h : t.Lies d u) (hu : u.Reads n) : t.Reads n := by
  obtain ⟨e, hu⟩ := hu
  exact ⟨_, h.trans hu⟩

lemma Calls.of_lies {f : String} (h : t.Lies d u) (hu : u.Calls f) : t.Calls f := by
  obtain ⟨e, ts, hu⟩ := hu
  exact ⟨_, ts, h.trans hu⟩

end Reckon.Tree
