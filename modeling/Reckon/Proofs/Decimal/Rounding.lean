import Mathlib.Algebra.Order.Field.Power
import Mathlib.Data.Int.Log
import Mathlib.Data.Rat.Floor
import Mathlib.Tactic.FieldSimp
import Mathlib.Tactic.LinearCombination
import Reckon.Decimal.Basic

/-!
Rounding to the nearest float as a function of the number alone. A mantissa with its two residual
bits is a fraction that has been cut to a whole number (`cut`), and cutting more of it goes on with
the same fraction; so what rounding gives depends on the number that is rounded and not on how it
was written. The product and the quotient of two floats are `nearest` to the product and the
quotient of their numbers.
-/

namespace Reckon.Rounding

open Float.Model Float.Model.UnpackedFloat

/-! ### Cut fractions -/

/-- The whole part of the fraction `n / d`, the bit after it, and whether anything comes
after this bit. -/
def cut (n d : Nat) : ExtendedMantissa :=
  ⟨n / d, decide (d ≤ 2 * (n % d)), decide (2 * n % d ≠ 0)⟩

lemma cut_one (n : Nat) : cut n 1 = ⟨n, false, false⟩ := by
  simp [cut, Nat.mod_one]

/-- Only the ratio matters. -/
lemma cut_congr {n d n' d' : Nat} (hd : 0 < d) (hd' : 0 < d') (h : n * d' = n' * d) :
    cut n d = cut n' d' := by
  have scale : ∀ {a b k : Nat}, 0 < k → cut (k * a) (k * b) = cut a b := by
    intro a b k hk
    have h₁ : 2 * (k * a) = k * (2 * a) := by rw [Nat.mul_left_comm]
    have h₂ : 2 * (k * (a % b)) = k * (2 * (a % b)) := by rw [Nat.mul_left_comm]
    simp [cut, Nat.mul_div_mul_left _ _ hk, Nat.mul_mod_mul_left, h₁, h₂,
      Nat.mul_le_mul_left_iff hk, hk.ne']
  calc cut n d = cut (d' * n) (d' * d) := (scale hd').symm
    _ = cut (d * n') (d * d') := by rw [Nat.mul_comm d' n, h, Nat.mul_comm n' d, Nat.mul_comm d' d]
    _ = cut n' d' := scale hd

/-- What comes after the whole part of a fraction is nothing exactly if the remainder is zero. -/
lemma residue_iff {r d : Nat} (hr : r < d) : (d ≤ 2 * r ∨ 2 * r % d ≠ 0) ↔ r ≠ 0 := by
  rcases Nat.lt_or_ge (2 * r) d with h | h
  · rw [Nat.mod_eq_of_lt h]
    omega
  · have : r ≠ 0 := by omega
    simp [h, this]

lemma double_mod (n d : Nat) : 2 * n % d = 2 * (n % d) % d := by
  simp [Nat.mul_mod]

lemma cut_shift (n : Nat) {d : Nat} (hd : 0 < d) : (cut n d).shiftRightOne = cut n (d * 2) := by
  have hr := Nat.mod_lt n hd
  have hmul : n % (d * 2) = n % d + d * (n / d % 2) := Nat.mod_mul
  have hround : d * 2 ≤ 2 * (n % (d * 2)) ↔ n / d % 2 ≠ 0 := by
    rw [hmul]
    rcases Nat.mod_two_eq_zero_or_one (n / d) with h | h <;> rw [h] <;> omega
  have hsticky : 2 * n % (d * 2) ≠ 0 ↔ n % d ≠ 0 := by
    rw [Nat.mul_comm d 2, Nat.mul_mod_mul_left]
    omega
  have hres := residue_iff hr
  rw [← double_mod] at hres
  rw [cut, cut, ExtendedMantissa.shiftRightOne]
  simp only [Nat.div_div_eq_div_mul, hround, hsticky, ← hres]
  rcases Nat.mod_two_eq_zero_or_one (n / d) with h | h <;> simp [h, Bool.decide_or]

lemma cut_shifts (n k : Nat) {d : Nat} (hd : 0 < d) : cut n d >>> k = cut n (d * 2 ^ k) := by
  induction k with
  | zero => simp [HShiftRight.hShiftRight, Nat.repeat]
  | succ k ih =>
    change (Nat.repeat ExtendedMantissa.shiftRightOne k (cut n d)).shiftRightOne = _
    change (cut n d >>> k).shiftRightOne = _
    rw [ih, cut_shift n (by positivity), Nat.pow_succ, Nat.mul_assoc]

lemma cut_of_fraction {m r d : Nat} (hr : r < d) :
    ExtendedMantissa.ofMantissaAndAccuracy m (accuracyOfFraction r d) = cut (m * d + r) d := by
  have hdiv : (m * d + r) / d = m := by
    rw [Nat.add_comm, Nat.add_mul_div_right r m (by omega), Nat.div_eq_of_lt hr, Nat.zero_add]
  have hmod : (m * d + r) % d = r := by rw [Nat.mul_add_mod_self_right, Nat.mod_eq_of_lt hr]
  rw [cut, hdiv, double_mod, hmod, accuracyOfFraction]
  split
  · next h =>
    have : d ≠ 0 := by omega
    simp [h, ExtendedMantissa.ofMantissaAndAccuracy, this]
  · next h =>
    rcases Nat.lt_trichotomy (2 * r) d with hlt | heq | hgt
    · have h₁ : ¬ d ≤ 2 * r := by omega
      rw [Nat.compare_eq_lt.2 hlt]
      simp [ExtendedMantissa.ofMantissaAndAccuracy, h₁, Nat.mod_eq_of_lt hlt, h]
    · rw [Nat.compare_eq_eq.2 heq]
      simp [ExtendedMantissa.ofMantissaAndAccuracy, heq]
    · have h₁ : d ≤ 2 * r := by omega
      have h₂ : 2 * r % d ≠ 0 := by
        rw [Nat.mod_eq_sub_mod h₁, Nat.mod_eq_of_lt (by omega)]
        omega
      rw [Nat.compare_eq_gt.2 hgt]
      simp [ExtendedMantissa.ofMantissaAndAccuracy, h₁, h₂]

/-! ### The nearest float -/

/-- The exponent of the float next to a number. -/
def target (q : ℚ) : Int :=
  max (Int.log 2 q - 52) (-1074)

/-- The end of rounding, from a mantissa that is cut to its place. -/
def finish (s : Sign) (em : ExtendedMantissa) (e : Int) : UnpackedFloat :=
  let last := shiftToTargetExponent .binary64 em.roundedMantissa e .exact
  if h : last.1.mantissa = 0 then .zero s
  else .finite s last.1.mantissa last.2 (Nat.pos_of_ne_zero h)

/-- The nearest float of a positive number, before it is packed. -/
def nearest (s : Sign) (q : ℚ) : UnpackedFloat :=
  finish s (cut (q.num.toNat * 2 ^ (-target q).toNat) (q.den * 2 ^ (target q).toNat)) (target q)

lemma shift_none (m : Nat) (a : Accuracy) :
    ExtendedMantissa.ofMantissaAndAccuracy m a >>> (0 : Nat) = .ofMantissaAndAccuracy m a :=
  rfl

lemma finite_congr {s : Sign} {m m' : Nat} {e e' : Int} {hm : 0 < m} {hm' : 0 < m'} (h : m = m')
    (he : e = e') : UnpackedFloat.finite s m e hm = .finite s m' e' hm' := by
  subst h he
  rfl

lemma finish_eq {s : Sign} {em last : ExtendedMantissa} {m : Nat} {e e' : Int} (hm : 0 < m)
    (h : shiftToTargetExponent .binary64 em.roundedMantissa e .exact = (last, e'))
    (hl : last.mantissa = m) : finish s em e = .finite s m e' hm := by
  subst hl
  have hne : ¬ (shiftToTargetExponent .binary64 em.roundedMantissa e .exact).1.mantissa = 0 := by
    rw [h]
    exact hm.ne'
  exact (dif_neg hne).trans (finite_congr (by rw [h]) (by rw [h]))

lemma targetExponent_eq (x : Int) : Format.binary64.targetExponent x = max (x - 53) (-1074) :=
  rfl

lemma roundWithAccuracy_eq (s : Sign) (m : Nat) (e : Int) (a : Accuracy) :
    roundWithAccuracy .binary64 s m e a =
      finish s
        (ExtendedMantissa.ofMantissaAndAccuracy m a >>>
          (Format.binary64.targetExponent (totalExponent m e) - e).toNat)
        (e + (Format.binary64.targetExponent (totalExponent m e) - e).toNat) :=
  rfl

section

variable {n d : Nat} {e : Int} {q : ℚ}

lemma log_eq {x : Int} (hq : 0 < q) (hl : (2 : ℚ) ^ x ≤ q) (hu : q < (2 : ℚ) ^ (x + 1)) :
    Int.log 2 q = x := by
  have h₁ := (Int.zpow_le_iff_le_log Nat.one_lt_two hq).1 (by exact_mod_cast hl)
  have h₂ := (Int.lt_zpow_iff_log_lt Nat.one_lt_two hq).1 (by exact_mod_cast hu)
  omega

/-- The logarithm of a number is that of its whole part, if there is one. -/
lemma log_of_cut (hd : 0 < d) (hm : n / d ≠ 0) (hq : q = n / d * 2 ^ e) :
    Int.log 2 q = (n / d).log2 + e := by
  have hd' : (0 : ℚ) < d := by exact_mod_cast hd
  have he : (0 : ℚ) < 2 ^ e := by positivity
  have hl : (2 : ℚ) ^ (n / d).log2 ≤ n / d := by
    rw [le_div_iff₀ hd']
    exact_mod_cast (Nat.le_div_iff_mul_le hd).1 (Nat.log2_self_le hm)
  have hu : (n : ℚ) / d < 2 ^ ((n / d).log2 + 1) := by
    rw [div_lt_iff₀ hd']
    exact_mod_cast (Nat.div_lt_iff_lt_mul hd).1 Nat.lt_log2_self
  have hpos : 0 < (n : ℚ) / d := lt_of_lt_of_le (by positivity) hl
  refine log_eq (hq ▸ mul_pos hpos he) ?_ ?_
  · rw [hq, zpow_add₀ two_ne_zero, zpow_natCast]
    exact mul_le_mul_of_nonneg_right hl he.le
  · rw [hq, add_right_comm, zpow_add₀ two_ne_zero]
    exact mul_lt_mul_of_pos_right (by exact_mod_cast hu) he

/-- The target that the whole part of a number leads to, if it is cut finely enough. -/
lemma target_of_cut (hn : 0 < n) (hd : 0 < d) (hq : q = n / d * 2 ^ e) (he : e ≤ target q) :
    Format.binary64.targetExponent (totalExponent (n / d) e) = target q := by
  have hn' : (0 : ℚ) < n := by exact_mod_cast hn
  have hd' : (0 : ℚ) < d := by exact_mod_cast hd
  have hpos : 0 < q := by rw [hq]; positivity
  rw [targetExponent_eq, totalExponent]
  by_cases hm : n / d = 0
  · have hlt : n < d := (Nat.div_eq_zero_iff_lt hd).1 hm
    have hlt' : (n : ℚ) / d < 1 := by
      rw [div_lt_one hd']
      exact_mod_cast hlt
    have hq' : q < (2 : ℚ) ^ e := by
      rw [hq]
      exact mul_lt_of_lt_one_left (by positivity) hlt'
    have hlog := (Int.lt_zpow_iff_log_lt Nat.one_lt_two hpos).1 (by exact_mod_cast hq')
    rw [target] at *
    simp only [hm, Nat.log2_zero]
    omega
  · rw [target, log_of_cut hd hm hq]
    omega

/-- A positive number that is cut finely enough is rounded to the nearest float. -/
theorem round_nearest (s : Sign) {a : Accuracy} (hn : 0 < n) (hd : 0 < d) (hq : q = n / d * 2 ^ e)
    (he : e ≤ target q) (ha : ExtendedMantissa.ofMantissaAndAccuracy (n / d) a = cut n d) :
    roundWithAccuracy .binary64 s (n / d) e a = nearest s q := by
  have hd' : (d : ℚ) ≠ 0 := by exact_mod_cast hd.ne'
  have hden : (q.den : ℚ) ≠ 0 := by exact_mod_cast q.den_nz
  have hpos : 0 < q := by
    rw [hq]
    have : (0 : ℚ) < n := by exact_mod_cast hn
    positivity
  have hnum : ((q.num.toNat : Int) : ℚ) = q * q.den := by
    rw [Int.toNat_of_nonneg (Rat.num_nonneg.2 hpos.le), Rat.mul_den_eq_num]
  have hend : e + (target q - e).toNat = target q := by omega
  rw [roundWithAccuracy_eq, ha, target_of_cut hn hd hq he, cut_shifts _ _ hd, hend, nearest]
  congr 1
  refine cut_congr (by positivity) (Nat.mul_pos q.den_pos (by positivity)) ?_
  have hpow : (2 : ℚ) ^ (target q).toNat =
      2 ^ (-target q).toNat * 2 ^ (target q - e).toNat * 2 ^ e := by
    simp only [← zpow_natCast, ← zpow_add₀ (two_ne_zero (α := ℚ))]
    congr 1
    omega
  have hn' : (n : ℚ) * 2 ^ e = q * d := by
    rw [hq]
    field_simp
  have key : (n : ℚ) * (q.den * 2 ^ (target q).toNat) =
      (q.num.toNat : Int) * 2 ^ (-target q).toNat * (d * 2 ^ (target q - e).toNat) := by
    rw [hnum, hpow]
    linear_combination q.den * 2 ^ (-target q).toNat * 2 ^ (target q - e).toNat * hn'
  exact_mod_cast key

end

/-! ### Floats as numbers -/

/-- The mantissa has as many bits as the format gives it, or the exponent is the least. -/
def Canonical (m : Nat) (e : Int) : Prop :=
  Format.binary64.targetExponent (totalExponent m e) = e

section

variable {m m₁ m₂ : Nat} {e e₁ e₂ : Int} {s s₁ s₂ : Sign}

lemma log_mul_pow (hm : 0 < m) (e : Int) : Int.log 2 (m * 2 ^ e : ℚ) = m.log2 + e := by
  have h := log_of_cut (q := m * 2 ^ e) (e := e) Nat.one_pos (n := m) (by simpa using hm.ne')
    (by simp)
  rwa [Nat.div_one] at h

lemma target_mul_pow (hm : 0 < m) (e : Int) :
    target (m * 2 ^ e) = max (m.log2 + e - 52) (-1074) := by
  rw [target, log_mul_pow hm]

lemma round_whole (s : Sign) (hm : 0 < m) (he : e ≤ target (m * 2 ^ e)) :
    roundWithAccuracy .binary64 s m e .exact = nearest s (m * 2 ^ e) := by
  have h := round_nearest s (a := .exact) hm Nat.one_pos (q := m * 2 ^ e) (by simp) he
    (by rw [cut_one, Nat.div_one]; rfl)
  rwa [Nat.div_one] at h

lemma canonical_iff : Canonical m e ↔ max (m.log2 + e - 52) (-1074) = e := by
  rw [Canonical, targetExponent_eq, totalExponent]
  omega

/-- A number that is a float is its own nearest float. -/
lemma nearest_canonical (s : Sign) (hm : 0 < m) (h : Canonical m e) :
    nearest s (m * 2 ^ e) = .finite s m e hm := by
  have he : e ≤ target (m * 2 ^ e) := by
    rw [target_mul_pow hm, canonical_iff.1 h]
  have hlast : shiftToTargetExponent .binary64 m e .exact =
      (.ofMantissaAndAccuracy m .exact, e) := by
    rw [shiftToTargetExponent, h, shiftToExponent, Int.sub_self, Int.toNat_zero, Int.natCast_zero,
      Int.add_zero, shift_none]
  rw [← round_whole s hm he, roundWithAccuracy_eq, h, Int.sub_self, Int.toNat_zero,
    Int.natCast_zero, Int.add_zero, shift_none]
  exact finish_eq hm hlast rfl

lemma round_eq (s : Sign) (hm : 0 < m) (e : Int) :
    UnpackedFloat.round .binary64 s m e = nearest s (m * 2 ^ e) := by
  have ht : Format.binary64.targetExponent (totalExponent m e) = target (m * 2 ^ e) := by
    rw [target_mul_pow hm, targetExponent_eq, totalExponent]
    omega
  rw [UnpackedFloat.round, decreaseExponent, ht]
  generalize hk : (e - target (m * 2 ^ e)).toNat = k
  have hq : ((m <<< k : Nat) : ℚ) * 2 ^ (e - k) = m * 2 ^ e := by
    rw [Nat.shiftLeft_eq, zpow_sub₀ two_ne_zero, zpow_natCast]
    push_cast
    field_simp
  have hpos : 0 < m <<< k := by
    rw [Nat.shiftLeft_eq]
    positivity
  have h := round_whole s hpos (e := e - k) (by rw [hq]; omega)
  rwa [hq] at h

theorem mul_eq (h₁ : 0 < m₁) (h₂ : 0 < m₂) (he : e₁ + e₂ ≤ target (m₁ * 2 ^ e₁ * (m₂ * 2 ^ e₂))) :
    UnpackedFloat.mul .binary64 (.finite s₁ m₁ e₁ h₁) (.finite s₂ m₂ e₂ h₂) =
      nearest (s₁ * s₂) (m₁ * 2 ^ e₁ * (m₂ * 2 ^ e₂)) := by
  have hq : (m₁ * 2 ^ e₁ * (m₂ * 2 ^ e₂) : ℚ) = (m₁ * m₂ : Nat) * 2 ^ (e₁ + e₂) := by
    rw [zpow_add₀ two_ne_zero]
    push_cast
    ring
  rw [hq] at he ⊢
  exact round_whole _ (Nat.mul_pos h₁ h₂) he

lemma log_div (h₁ : 0 < m₁) (h₂ : 0 < m₂) :
    m₁.log2 + e₁ - (m₂.log2 + e₂) - 1 ≤ Int.log 2 (m₁ * 2 ^ e₁ / (m₂ * 2 ^ e₂) : ℚ) := by
  have hl : (2 : ℚ) ^ m₁.log2 ≤ m₁ := by exact_mod_cast Nat.log2_self_le h₁.ne'
  have hu : (m₂ : ℚ) ≤ 2 ^ (m₂.log2 + 1) := by exact_mod_cast Nat.lt_log2_self.le
  have hm₂ : (0 : ℚ) < m₂ := by exact_mod_cast h₂
  have hm₁ : (0 : ℚ) < m₁ := by exact_mod_cast h₁
  refine (Int.zpow_le_iff_le_log Nat.one_lt_two (by positivity)).1 ?_
  have hx : (m₁.log2 + e₁ - (m₂.log2 + e₂) - 1 : Int) =
      m₁.log2 + e₁ - ((m₂.log2 + 1 : Nat) + e₂) := by
    omega
  rw [hx, Nat.cast_ofNat, zpow_sub₀ two_ne_zero, zpow_add₀ two_ne_zero, zpow_add₀ two_ne_zero,
    zpow_natCast, zpow_natCast]
  gcongr

theorem div_eq (h₁ : 0 < m₁) (h₂ : 0 < m₂) :
    UnpackedFloat.div .binary64 (.finite s₁ m₁ e₁ h₁) (.finite s₂ m₂ e₂ h₂) =
      nearest (s₁ / s₂) (m₁ * 2 ^ e₁ / (m₂ * 2 ^ e₂)) := by
  have hm₂ : (m₂ : ℚ) ≠ 0 := by exact_mod_cast h₂.ne'
  change (match divCore .binary64 m₁ e₁ m₂ e₂ with
    | (m, e, a) => roundWithAccuracy .binary64 (s₁ / s₂) m e a) = _
  rw [divCore]
  generalize hx : totalExponent m₁ e₁ - totalExponent m₂ e₂ = x
  generalize ht : min (e₁ - e₂) (Format.binary64.targetExponent x) = t
  generalize hk : (e₁ - e₂ - t).toNat = k
  have hpos : 0 < m₁ <<< k := by
    rw [Nat.shiftLeft_eq]
    positivity
  have hq : (m₁ * 2 ^ e₁ / (m₂ * 2 ^ e₂) : ℚ) = (m₁ <<< k : Nat) / m₂ * 2 ^ t := by
    have he : e₁ = e₂ + k + t := by omega
    rw [Nat.shiftLeft_eq, he, zpow_add₀ two_ne_zero, zpow_add₀ two_ne_zero, zpow_natCast]
    push_cast
    field_simp
  refine round_nearest _ hpos h₂ hq ?_ ?_
  · have hlog : x - 1 ≤ Int.log 2 (m₁ * 2 ^ e₁ / (m₂ * 2 ^ e₂) : ℚ) := by
      rw [← hx, totalExponent, totalExponent]
      exact Int.le_trans (by omega) (log_div h₁ h₂)
    rw [targetExponent_eq] at ht
    rw [target]
    omega
  · rw [cut_of_fraction (Nat.mod_lt _ h₂), Nat.div_add_mod']

end

end Reckon.Rounding
