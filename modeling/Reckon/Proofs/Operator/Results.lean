import Mathlib.Tactic.Lemma
import Reckon.Operator.Apply

/-!
The results of operators. Well-formed operands give well-formed results: what integer arithmetic
checks is exactly what could leave the range, and a remainder or a power of `0`, `1` or `-1`, which
is not checked, stays within it.
-/

namespace Reckon

/-- If there is a result, then one with the property. -/
def Yields {α : Type} (Q : α → Prop) (r : Except Error α) : Prop :=
  ∀ a, r = .ok a → Q a

section

variable {α β : Type} {Q : α → Prop} {r s : Except Error α}

lemma Yields.ok {a : α} (h : Q a) : Yields Q (.ok a) := by
  rintro _ ⟨⟩
  exact h

lemma Yields.error (e : Error) : Yields Q (.error e) :=
  nofun

lemma Yields.map {P : β → Prop} {f : α → β} (h : Yields Q r) (hf : ∀ a, Q a → P (f a)) :
    Yields P (r.map f) := by
  cases r with
  | error e => exact .error e
  | ok a => exact .ok (hf a (h a rfl))

lemma Yields.bind {P : β → Prop} {f : α → Except Error β} (h : Yields Q r)
    (hf : ∀ a, Q a → Yields P (f a)) : Yields P (r >>= f) := by
  cases r with
  | ok a => exact hf a (h a rfl)
  | error e => exact .error e

lemma Yields.ite {p : Prop} [Decidable p] (hr : p → Yields Q r) (hs : ¬ p → Yields Q s) :
    Yields Q (if p then r else s) := by
  split
  · next h => exact hr h
  · next h => exact hs h

end

namespace Integer

variable {m n : Int}

/-- The quotient of the magnitudes with the sign of both is the quotient rounded toward zero. -/
lemma quotient_eq (m n : Int) : quotient m n = m.tdiv n := by
  rw [quotient]
  rcases Int.natAbs_eq m with h | h <;> rcases Int.natAbs_eq n with h' | h'
  all_goals
    generalize m.natAbs = a at *
    generalize n.natAbs = b at *
    subst h h'
    simp only [Int.tdiv_neg, Int.neg_tdiv, Int.neg_neg, Int.ofNat_tdiv]
  · rw [if_pos (by simp; omega)]
  · rcases Nat.eq_zero_or_pos b with rfl | hb
    · simp
    · rw [if_neg (by simp; omega)]
  · rcases Nat.eq_zero_or_pos a with rfl | ha
    · simp
    · rw [if_neg (by simp; omega)]
  · rcases Nat.eq_zero_or_pos a with rfl | ha
    · simp
    rcases Nat.eq_zero_or_pos b with rfl | hb
    · simp
    rw [if_pos (by simp; omega)]

lemma remainder_eq (m n : Int) : m - n * quotient m n = m.tmod n := by
  rw [quotient_eq, Int.tmod_def]

/-- A remainder is no larger than the dividend and has its sign. -/
lemma inRange_tmod (hm : InRange m) : InRange (m.tmod n) := by
  obtain ⟨hl, hg⟩ := hm
  have habs : (m.tmod n).natAbs ≤ m.natAbs := by
    rw [Int.natAbs_tmod]
    exact Nat.mod_le _ _
  rcases Int.le_total 0 m with h | h
  · have := Int.tmod_nonneg n h
    have : least ≤ 0 := by decide
    exact ⟨by omega, by omega⟩
  · have := Int.tmod_nonneg n (Int.neg_nonneg_of_nonpos h)
    rw [Int.neg_tmod] at this
    have : 0 ≤ greatest := by decide
    exact ⟨by omega, by omega⟩

lemma yields_check (n : Int) : Yields InRange (check n) :=
  .ite .ok fun _ => .error _

lemma yields_apply (a : Arithmetic) (hm : InRange m) : Yields InRange (apply a m n) := by
  have h0 : InRange 0 := by decide
  have h1 : InRange 1 := by decide
  have h1' : InRange (-1) := by decide
  cases a with
  | add | sub | mul => exact yields_check _
  | div => exact .ite (fun _ => .error _) fun _ => yields_check _
  | mod =>
    refine .ite (fun _ => .error _) fun _ => ?_
    have hr : InRange (m - n * quotient m n) := remainder_eq m n ▸ inRange_tmod hm
    rw [check]
    split
    · exact .ok hr
    · exact .error _
  | pow =>
    refine .ite (fun _ => .error _) fun _ => .ite (fun _ => .ok ?_) fun _ =>
      .ite (fun _ => .ok h1) fun _ =>
      .ite (fun _ => .ok ?_) fun _ => .ite (fun _ => .error _) fun _ => yields_check _
    · split
      · exact h1
      · exact h0
    · split
      · exact h1
      · exact h1'

end Integer

lemma yields_unary (op : Unary) {v : Value} (h : v.WellFormed) :
    Yields Value.WellFormed (op.apply v) := by
  cases op <;> cases v
  case neg.int n => exact (Integer.yields_check _).map fun _ hn => hn
  case pos.int n => exact .ok h
  all_goals first | exact .ok trivial | exact .error _

lemma yields_arithmetic (a : Arithmetic) {l r : Value} (hl : l.WellFormed) :
    Yields Value.WellFormed (a.apply l r) := by
  cases l <;> cases r
  case int.int m n => exact (Integer.yields_apply a hl).map fun _ hn => hn
  case string.string s t => exact .ite (fun _ => .ok trivial) fun _ => .error _
  all_goals first | exact .ok trivial | exact .error _

lemma yields_boolean (r : Except Error Bool) (f : Bool → Bool) :
    Yields Value.WellFormed (r.map fun b => .boolean (f b)) := by
  cases r with
  | error e => exact .error e
  | ok b => exact .ok trivial

theorem yields_binary (op : Binary) {l r : Value} (hl : l.WellFormed) :
    Yields Value.WellFormed (op.apply l r) := by
  cases op with
  | arith a => exact yields_arithmetic a hl
  | eq => exact yields_boolean _ id
  | ne => exact yields_boolean _ (!·)
  | order c => exact yields_boolean _ id
  | and | or => cases l <;> cases r <;> first | exact .ok trivial | exact .error _

end Reckon
