import Mathlib.Algebra.Ring.Int.Defs
import Mathlib.Algebra.Ring.Parity
import Reckon.Proofs.Operator.Results

/-!
Integer arithmetic is exact or refused. What each operator refuses is told by the exact result
alone: one that does not fit in 64 bits, and the operands for which there is none. So the quotient
need not be checked for more than one pair of operands, a remainder fails for the same pairs as the
quotient, and that powers of `0`, `1` and `-1` are not computed and exponents from 64 on are refused
at once makes no difference.
-/

namespace Reckon

/-- Refused as arithmetic if `fails` holds, and otherwise the value `a`. -/
structure Exactly {α : Type} (r : Except Error α) (fails : Prop) (a : α) : Prop where
  refused : fails → ∃ f, r = .error (.arithmetic f)
  exact : ¬ fails → r = .ok a

section

variable {α β : Type} {r s : Except Error α} {fails p : Prop} {a : α}

lemma Exactly.error (f : ArithmeticFault) (h : fails) (a : α) :
    Exactly (.error (.arithmetic f)) fails a :=
  ⟨fun _ => ⟨f, rfl⟩, fun hno => absurd h hno⟩

lemma Exactly.ok (h : ¬ fails) : Exactly (.ok a) fails a :=
  ⟨fun hf => absurd hf h, fun _ => rfl⟩

lemma Exactly.map (h : Exactly r fails a) (f : α → β) : Exactly (r.map f) fails (f a) := by
  refine ⟨fun hf => ?_, fun hno => ?_⟩
  · obtain ⟨e, he⟩ := h.refused hf
    exact ⟨e, by rw [he]; rfl⟩
  · rw [h.exact hno]
    rfl

lemma Exactly.congr {fails' : Prop} (h : Exactly r fails a) (hf : fails ↔ fails') :
    Exactly r fails' a :=
  ⟨fun h' => h.refused (hf.2 h'), fun h' => h.exact (mt hf.1 h')⟩

lemma Exactly.ite [Decidable p] (hr : p → Exactly r fails a) (hs : ¬ p → Exactly s fails a) :
    Exactly (if p then r else s) fails a := by
  split
  · next h => exact hr h
  · next h => exact hs h

end

namespace Integer

variable {a b : Int}

lemma exactly_check (n : Int) : Exactly (check n) (¬ InRange n) n := by
  rw [check]
  exact .ite (fun h => .ok (not_not_intro h)) fun h => .error _ h n

/-! ### Quotients and remainders -/

/-- Of all quotients of integers in range, one is not. -/
lemma inRange_tdiv (ha : InRange a) (hb : b ≠ 0) : InRange (a.tdiv b) ↔ ¬ (a = least ∧ b = -1) := by
  constructor
  · rintro h ⟨rfl, rfl⟩
    exact absurd h (by decide)
  intro hne
  obtain ⟨hl, hg⟩ := ha
  simp only [InRange, least, greatest] at hl hg hne ⊢
  by_cases hb' : b = -1
  · subst hb'
    rw [Int.tdiv_neg, Int.tdiv_one]
    omega
  by_cases hb'' : b = 1
  · subst hb''
    rw [Int.tdiv_one]
    exact ⟨hl, hg⟩
  · -- any other divisor at least halves the magnitude
    have habs : (a.tdiv b).natAbs ≤ a.natAbs / 2 := by
      rw [Int.natAbs_tdiv]
      exact Nat.div_le_div_left (by omega) (by decide)
    omega

lemma exactly_quotient (ha : InRange a) (b : Int) (hb : b ≠ 0) :
    Exactly (check (quotient a b)) (b = 0 ∨ a = least ∧ b = -1) (a.tdiv b) := by
  rw [quotient_eq]
  refine (exactly_check _).congr ?_
  rw [inRange_tdiv ha hb]
  simp [hb]

lemma exactly_divide (ha : InRange a) (b : Int) :
    Exactly (divide a b) (b = 0 ∨ a = least ∧ b = -1) (a.tdiv b) :=
  .ite (fun h => .error _ (.inl h) _) fun h => exactly_quotient ha b h

lemma exactly_remainder (ha : InRange a) (b : Int) :
    Exactly (remainder a b) (b = 0 ∨ a = least ∧ b = -1) (a.tmod b) := by
  refine .ite (fun h => .error _ (.inl h) _) fun h => ?_
  have hr : a - b * a.tdiv b = a.tmod b := (Int.tmod_def a b).symm
  rw [← hr]
  exact (exactly_quotient ha b h).map fun q => a - b * q

/-- A remainder that is not zero has the sign of the dividend. -/
lemma sign_tmod (a b : Int) : a.tmod b = 0 ∨ (a.tmod b).sign = a.sign := by
  rcases Int.lt_trichotomy a 0 with h | rfl | h
  · have := Int.tmod_nonneg b (Int.neg_nonneg_of_nonpos (Int.le_of_lt h))
    rw [Int.neg_tmod] at this
    rw [Int.sign_eq_neg_one_of_neg h]
    rcases Int.lt_or_eq_of_le (Int.neg_nonneg.1 this) with hr | hr
    · exact .inr (Int.sign_eq_neg_one_of_neg hr)
    · exact .inl hr
  · simp
  · rw [Int.sign_eq_one_of_pos h]
    rcases Int.lt_or_eq_of_le (Int.tmod_nonneg b (Int.le_of_lt h)) with hr | hr
    · exact .inr (Int.sign_eq_one_of_pos hr)
    · exact .inl hr.symm

lemma natAbs_tmod_lt (a : Int) (hb : b ≠ 0) : (a.tmod b).natAbs < b.natAbs := by
  rw [Int.natAbs_tmod]
  exact Nat.mod_lt _ (Int.natAbs_pos.2 hb)

/-! ### Powers -/

/-- A base other than `0`, `1` and `-1` leaves the range with the exponent 64 at the latest. -/
lemma not_inRange_pow {n : Nat} (ha : 2 ≤ a.natAbs) (hn : 64 ≤ n) : ¬ InRange (a ^ n) := by
  have hpow : 2 ^ 64 ≤ (a ^ n).natAbs := by
    rw [Int.natAbs_pow]
    calc 2 ^ 64 ≤ 2 ^ n := Nat.pow_le_pow_right (by decide) hn
      _ ≤ a.natAbs ^ n := Nat.pow_le_pow_left ha n
  rintro ⟨hl, hg⟩
  simp only [least, greatest] at hl hg
  omega

lemma exactly_power (a b : Int) :
    Exactly (power a b) (b < 0 ∨ ¬ InRange (a ^ b.toNat)) (a ^ b.toNat) := by
  -- from here on the exponent is a natural number
  refine .ite (fun h => .error _ (.inl h) _) fun hb => ?_
  obtain ⟨n, rfl⟩ := Int.eq_ofNat_of_zero_le (Int.not_lt.1 hb)
  have hfails : ((n : Int) < 0 ∨ ¬ InRange (a ^ n)) ↔ ¬ InRange (a ^ n) := or_iff_right hb
  refine Exactly.congr ?_ hfails.symm
  rw [Int.toNat_natCast]
  by_cases h0 : a = 0
  · subst h0
    rw [if_pos rfl]
    rcases Nat.eq_zero_or_pos n with rfl | hn
    · exact .ok (by decide)
    · rw [if_neg (by omega), Int.zero_pow (by omega)]
      exact .ok (by decide)
  rw [if_neg h0]
  by_cases h1 : a = 1
  · subst h1
    rw [if_pos rfl, Int.one_pow]
    exact .ok (by decide)
  rw [if_neg h1]
  by_cases h1' : a = -1
  · subst h1'
    have heven : (n : Int) % 2 = 0 ↔ Even n := by rw [Nat.even_iff]; omega
    rw [if_pos rfl, neg_one_pow_eq_ite]
    simp only [heven]
    refine .ok (not_not_intro ?_)
    split <;> decide
  rw [if_neg h1']
  exact .ite (fun h => .error _ (not_inRange_pow (by omega) (by omega)) _) fun _ => exactly_check _

lemma exactly_negate (ha : InRange a) : Exactly (negate a) (a = least) (-a) := by
  refine (exactly_check _).congr ?_
  obtain ⟨hl, hg⟩ := ha
  simp only [InRange, least, greatest] at hl hg ⊢
  omega

end Integer

/-- **Integer arithmetic is exact or refused.** For an integer in range on the left side, each
operator gives the exact result or refuses, and refuses only what has no exact result in range: a
remainder also where the quotient is not in range. -/
theorem integer_exact {a : Int} (ha : InRange a) (b : Int) :
    Exactly (Binary.apply (.arith .add) (.int a) (.int b)) (¬ InRange (a + b)) (.int (a + b)) ∧
    Exactly (Binary.apply (.arith .sub) (.int a) (.int b)) (¬ InRange (a - b)) (.int (a - b)) ∧
    Exactly (Binary.apply (.arith .mul) (.int a) (.int b)) (¬ InRange (a * b)) (.int (a * b)) ∧
    Exactly (Binary.apply (.arith .div) (.int a) (.int b)) (b = 0 ∨ a = least ∧ b = -1)
      (.int (a.tdiv b)) ∧
    (∃ r, Exactly (Binary.apply (.arith .mod) (.int a) (.int b)) (b = 0 ∨ a = least ∧ b = -1)
      (.int r) ∧ (b ≠ 0 → a = a.tdiv b * b + r ∧ r.natAbs < b.natAbs ∧ (r = 0 ∨ r.sign = a.sign))) ∧
    Exactly (Binary.apply (.arith .pow) (.int a) (.int b)) (b < 0 ∨ ¬ InRange (a ^ b.toNat))
      (.int (a ^ b.toNat)) ∧
    Exactly (Unary.apply .neg (.int a)) (a = least) (.int (-a)) := by
  refine ⟨(Integer.exactly_check _).map Value.int, (Integer.exactly_check _).map Value.int,
    (Integer.exactly_check _).map Value.int, (Integer.exactly_divide ha b).map Value.int, ?_,
    (Integer.exactly_power a b).map Value.int, (Integer.exactly_negate ha).map Value.int⟩
  refine ⟨a.tmod b, (Integer.exactly_remainder ha b).map Value.int,
    fun hb => ⟨?_, ?_, Integer.sign_tmod a b⟩⟩
  · exact (Int.tdiv_mul_add_tmod a b).symm
  · exact Integer.natAbs_tmod_lt a hb

/-- The least integer is the power of `-2` that is not refused with the exponent 63. -/
theorem integer_exact_least :
    InRange (-2) ∧ Binary.apply (.arith .pow) (.int (-2)) (.int 63) = .ok (.int least) := by
  have ha : InRange (-2) := by decide
  have hpow : ¬ ((63 : Int) < 0 ∨ ¬ InRange ((-2) ^ (63 : Int).toNat)) := by decide
  exact ⟨ha, ((integer_exact ha 63).2.2.2.2.2.1).exact hpow⟩

end Reckon
