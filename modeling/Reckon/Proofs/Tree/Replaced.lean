import Reckon.Proofs.Tree.Parts

/-!
Trees with values in the place of variables. Every node stays where it is, only variables that are
given a value become literals: so the tree no longer reads these, and it calls what it called,
functions of the same names included.
-/

namespace Reckon.Tree

mutual

/-- The tree with a literal in the place of every variable that is given a value. -/
def instantiate (ρ : String → Option Value) : Tree → Tree
  | literal v => literal v
  | name n => (ρ n).elim (name n) literal
  | unary op t => unary op (t.instantiate ρ)
  | binary op l r => binary op (l.instantiate ρ) (r.instantiate ρ)
  | call f ts => call f (instantiates ρ ts)
  | tuple ts => tuple (instantiates ρ ts)

def instantiates (ρ : String → Option Value) : List Tree → List Tree
  | [] => []
  | t :: ts => t.instantiate ρ :: instantiates ρ ts

end

/-- The variable `x`, and no other, is given the value. -/
def only (x : String) (v : Value) (n : String) : Option Value :=
  if n = x then some v else none

/-- The tree with the value in the place of the variable `x`. -/
def replace (x : String) (v : Value) (t : Tree) : Tree :=
  t.instantiate (only x v)

variable {ρ : String → Option Value} {t u w : Tree} {d : Nat} {n x f : String} {v : Value}

lemma only_eq_some {w : Value} : only x v n = some w ↔ n = x ∧ v = w := by
  rw [only]
  split
  · next h => simp [h]
  · next h => simp [h]

lemma only_eq_none : only x v n = none ↔ n ≠ x := by
  rw [only]
  split
  · next h => simp [h]
  · next h => simp [h]

lemma instantiates_eq (ts : List Tree) : instantiates ρ ts = ts.map (·.instantiate ρ) := by
  induction ts with
  | nil => rfl
  | cons t ts ih => rw [instantiates, ih, List.map_cons]

/-- Nodes stay where they are. -/
lemma Lies.instantiate (h : t.Lies d u) : (t.instantiate ρ).Lies d (u.instantiate ρ) := by
  induction h with
  | root => exact .root
  | operand _ ih => exact .operand ih
  | left _ ih => exact .left ih
  | right _ ih => exact .right ih
  | argument _ hu ih =>
    refine .argument ih ?_
    rw [instantiates_eq]
    exact List.mem_map_of_mem hu
  | item _ hu ih =>
    refine .item ih ?_
    rw [instantiates_eq]
    exact List.mem_map_of_mem hu

/-- What a node becomes. -/
inductive Becomes (ρ : String → Option Value) : Tree → Tree → Prop
  | literal {v : Value} : Becomes ρ (literal v) (literal v)
  | name {n : String} (h : ρ n = none) : Becomes ρ (name n) (name n)
  | value {n : String} {v : Value} (h : ρ n = some v) : Becomes ρ (name n) (.literal v)
  | unary {op : Unary} {t : Tree} : Becomes ρ (unary op t) (unary op (t.instantiate ρ))
  | binary {op : Binary} {l r : Tree} :
      Becomes ρ (binary op l r) (binary op (l.instantiate ρ) (r.instantiate ρ))
  | call {f : String} {ts : List Tree} : Becomes ρ (call f ts) (call f (ts.map (·.instantiate ρ)))
  | tuple {ts : List Tree} : Becomes ρ (tuple ts) (tuple (ts.map (·.instantiate ρ)))

lemma becomes (ρ : String → Option Value) (t : Tree) : Becomes ρ t (t.instantiate ρ) := by
  cases t with
  | literal v => exact .literal
  | name n =>
    rw [Tree.instantiate]
    cases h : ρ n with
    | none => exact .name h
    | some v => exact .value h
  | unary op t => exact .unary
  | binary op l r => exact .binary
  | call f ts =>
    rw [Tree.instantiate, instantiates_eq]
    exact .call
  | tuple ts =>
    rw [Tree.instantiate, instantiates_eq]
    exact .tuple

/-- No other nodes come in. -/
lemma exists_lies (h : (t.instantiate ρ).Lies d w) : ∃ u, t.Lies d u ∧ Becomes ρ u w := by
  -- the node above is what a node of the tree has become, so this one is below that
  induction h with
  | root => exact ⟨t, .root, becomes ρ t⟩
  | operand _ ih =>
    obtain ⟨_, hu, hb⟩ := ih
    cases hb with
    | unary => exact ⟨_, .operand hu, becomes ρ _⟩
  | left _ ih =>
    obtain ⟨_, hu, hb⟩ := ih
    cases hb with
    | binary => exact ⟨_, .left hu, becomes ρ _⟩
  | right _ ih =>
    obtain ⟨_, hu, hb⟩ := ih
    cases hb with
    | binary => exact ⟨_, .right hu, becomes ρ _⟩
  | argument _ hw ih =>
    obtain ⟨_, hu, hb⟩ := ih
    cases hb with
    | call =>
      obtain ⟨u, hmem, rfl⟩ := List.mem_map.1 hw
      exact ⟨u, .argument hu hmem, becomes ρ u⟩
  | item _ hw ih =>
    obtain ⟨_, hu, hb⟩ := ih
    cases hb with
    | tuple =>
      obtain ⟨u, hmem, rfl⟩ := List.mem_map.1 hw
      exact ⟨u, .item hu hmem, becomes ρ u⟩

theorem reads_instantiate : (t.instantiate ρ).Reads n ↔ t.Reads n ∧ ρ n = none := by
  constructor
  · rintro ⟨d, h⟩
    obtain ⟨u, hu, hb⟩ := exists_lies h
    cases hb with
    | name hn => exact ⟨⟨d, hu⟩, hn⟩
  · rintro ⟨⟨d, h⟩, hn⟩
    have h := h.instantiate (ρ := ρ)
    rw [Tree.instantiate, hn] at h
    exact ⟨d, h⟩

lemma calls_instantiate : (t.instantiate ρ).Calls f ↔ t.Calls f := by
  constructor
  · rintro ⟨d, ts, h⟩
    obtain ⟨u, hu, hb⟩ := exists_lies h
    cases hb with
    | call => exact ⟨d, _, hu⟩
  · rintro ⟨d, ts, h⟩
    exact ⟨d, _, h.instantiate⟩

mutual

/-- If no variable is given a value, the tree stays as it is. -/
lemma instantiate_eq_self (t : Tree) (h : ∀ n, t.Reads n → ρ n = none) : t.instantiate ρ = t := by
  cases t with
  | literal v => rfl
  | name n =>
    rw [Tree.instantiate, h n ⟨0, .root⟩]
    rfl
  | unary op t =>
    rw [Tree.instantiate, instantiate_eq_self t fun n hn => h n (hn.of_lies (.operand .root))]
  | binary op l r =>
    rw [Tree.instantiate, instantiate_eq_self l fun n hn => h n (hn.of_lies (.left .root)),
      instantiate_eq_self r fun n hn => h n (hn.of_lies (.right .root))]
  | call f ts =>
    rw [Tree.instantiate, instantiates_eq_self ts fun t ht n hn =>
      h n (hn.of_lies (.argument .root ht))]
  | tuple ts =>
    rw [Tree.instantiate, instantiates_eq_self ts fun t ht n hn =>
      h n (hn.of_lies (.item .root ht))]

lemma instantiates_eq_self (ts : List Tree) (h : ∀ t ∈ ts, ∀ n, t.Reads n → ρ n = none) :
    instantiates ρ ts = ts := by
  cases ts with
  | nil => rfl
  | cons t ts =>
    rw [instantiates, instantiate_eq_self t (h t List.mem_cons_self),
      instantiates_eq_self ts fun u hu => h u (List.mem_cons_of_mem _ hu)]

end

/-! ### One variable -/

lemma reads_replace : (t.replace x v).Reads n ↔ t.Reads n ∧ n ≠ x := by
  rw [replace, reads_instantiate, only_eq_none]

lemma calls_replace : (t.replace x v).Calls f ↔ t.Calls f :=
  calls_instantiate

lemma replace_eq_self (h : ¬ t.Reads x) : t.replace x v = t :=
  instantiate_eq_self t fun n hn => only_eq_none.2 (by rintro rfl; exact h hn)

end Reckon.Tree
