import Reckon.Decimal.Shortest
import Reckon.Proofs.Decimal.Packing

/-!
The float of a decimal is the nearest float of its number, on the short way that is taken for few
digits and small powers of ten as on the long one. So it does not matter how the number is split
into digits and exponent, and a decimal of exactly the number of a float leads back to the float.
-/

namespace Reckon

namespace Rounding

open Float.Model Float.Model.UnpackedFloat

section

variable {s : Sign} {q : ℚ}

/-! ### The ends of the range -/

lemma finish_zero {em : ExtendedMantissa} (h : em.roundedMantissa = 0) (e : Int) :
    finish s em e = .zero s := by
  have hlast : (shiftToTargetExponent .binary64 em.roundedMantissa e .exact).1.mantissa = 0 := by
    rw [h, shiftToTargetExponent, shiftToExponent]
    have hcut : ExtendedMantissa.ofMantissaAndAccuracy 0 .exact = cut 0 1 := rfl
    simp only [hcut, cut_shifts _ _ Nat.one_pos]
    exact Nat.zero_div _
  exact dif_pos hlast

lemma nearest_zero (s : Sign) : nearest s 0 = .zero s := by
  refine finish_zero ?_ _
  have h : cut ((0 : ℚ).num.toNat * 2 ^ (-target 0).toNat) ((0 : ℚ).den * 2 ^ (target 0).toNat) =
      ⟨0, false, false⟩ := by
    simp [cut]
  rw [h]
  rfl

/-- The last shift of rounding leaves something of what it shifts. -/
lemma last_pos {m : Nat} {e : Int} (hm : 0 < m) (he : -1074 ≤ e) :
    ∃ last e', shiftToTargetExponent .binary64 m e .exact = (last, e') ∧ 0 < last.mantissa ∧
      e ≤ e' := by
  rw [shiftToTargetExponent, targetExponent_eq, totalExponent, shiftToExponent]
  generalize hk : (max (m.log2 + 1 + e - 53) (-1074) - e).toNat = k
  have hcut : ExtendedMantissa.ofMantissaAndAccuracy m .exact = cut m 1 := (cut_one m).symm
  refine ⟨_, _, rfl, ?_, by omega⟩
  have hle : 2 ^ k ≤ m := (Nat.le_log2 hm.ne').1 (by omega)
  rw [hcut, cut_shifts _ _ Nat.one_pos, Nat.one_mul]
  exact Nat.div_pos hle (by positivity)

lemma le_rounded (em : ExtendedMantissa) : em.mantissa ≤ em.roundedMantissa := by
  obtain ⟨m, r, t⟩ := em
  cases r <;> cases t <;>
    simp [ExtendedMantissa.roundedMantissa, ExtendedMantissa.accuracy, Accuracy.roundToNearestEven]

lemma two_pow_toNat (t : Int) : (2 : ℚ) ^ (-t).toNat * 2 ^ t = 2 ^ t.toNat := by
  simp only [← zpow_natCast, ← zpow_add₀ (two_ne_zero (α := ℚ))]
  congr 1
  omega

/-- The fraction that is cut for the nearest float is the number in units of the target. -/
lemma target_fraction (h : 0 ≤ q) (t : Int) :
    ((q.num.toNat * 2 ^ (-t).toNat : Nat) : ℚ) = q / 2 ^ t * (q.den * 2 ^ t.toNat : Nat) := by
  have hnum : ((q.num.toNat : Nat) : ℚ) = q * q.den := by
    rw [Rat.mul_den_eq_num, ← Int.toNat_of_nonneg (Rat.num_nonneg.2 h), Int.toNat_natCast]
    rfl
  have h2 : (2 : ℚ) ^ t ≠ 0 := by positivity
  push_cast
  rw [hnum, ← two_pow_toNat t]
  field_simp

lemma target_den_pos (q : ℚ) (t : Int) : 0 < q.den * 2 ^ t.toNat :=
  Nat.mul_pos q.den_pos (by positivity)

/-- What is greater than every float rounds to infinity. -/
lemma nearest_large (s : Sign) (h : 0 < q) (hq : 1024 ≤ Int.log 2 q) :
    pack .binary64 (nearest s q) = packedInfinity .binary64 s := by
  have ht : target q = Int.log 2 q - 52 := by
    rw [target]
    omega
  have hcut :
      0 < (cut (q.num.toNat * 2 ^ (-target q).toNat) (q.den * 2 ^ (target q).toNat)).mantissa := by
    refine Nat.div_pos ?_ (target_den_pos q _)
    have hle : (2 : ℚ) ^ target q ≤ q := by
      have := (Int.zpow_le_iff_le_log (b := 2) (x := target q) Nat.one_lt_two h).2 (by omega)
      exact_mod_cast this
    have hone : 1 ≤ q / 2 ^ target q := (one_le_div (by positivity)).2 hle
    have : ((q.den * 2 ^ (target q).toNat : Nat) : ℚ) ≤
        (q.num.toNat * 2 ^ (-target q).toNat : Nat) := by
      rw [target_fraction h.le]
      exact le_mul_of_one_le_left (by positivity) hone
    exact_mod_cast this
  obtain ⟨last, e, hlast, hm, he⟩ :=
    last_pos (Nat.lt_of_lt_of_le hcut (le_rounded _)) (e := target q)
    (by omega)
  rw [nearest, finish_eq hm hlast rfl]
  exact pack_large s hm (by omega)

lemma cut_small {n d : Nat} (h : 2 * n < d) : (cut n d).roundedMantissa = 0 := by
  have hlt : n < d := by omega
  have hdiv : n / d = 0 := Nat.div_eq_of_lt hlt
  have hround : ¬ d ≤ 2 * (n % d) := by
    rw [Nat.mod_eq_of_lt hlt]
    omega
  rw [cut, hdiv, decide_eq_false hround]
  cases decide (2 * n % d ≠ 0) <;> rfl

/-- What is less than half the least float rounds to zero. -/
lemma nearest_small (s : Sign) (h : 0 < q) (hq : Int.log 2 q < -1075) : nearest s q = .zero s := by
  have ht : Int.log 2 q < target q - 1 := by
    rw [target]
    omega
  refine finish_zero (cut_small ?_) _
  have hlt : q < (2 : ℚ) ^ (target q - 1) := by
    have := (Int.lt_zpow_iff_log_lt (b := 2) (x := target q - 1) Nat.one_lt_two h).2 ht
    exact_mod_cast this
  have hhalf : 2 * (q / 2 ^ target q) < 1 := by
    rw [zpow_sub_one₀ two_ne_zero] at hlt
    rw [← mul_div_assoc, div_lt_one (by positivity)]
    linarith
  have : ((2 * (q.num.toNat * 2 ^ (-target q).toNat) : Nat) : ℚ) <
      (q.den * 2 ^ (target q).toNat : Nat) := by
    rw [Nat.cast_mul, target_fraction h.le, ← mul_assoc]
    exact mul_lt_of_lt_one_left (by exact_mod_cast target_den_pos q _) (by exact_mod_cast hhalf)
  exact_mod_cast this

/-! ### Decimals -/

variable {m : Nat} {e : Int}

lemma pow_ten_le (h : 0 ≤ e) : (2 : ℚ) ^ e ≤ 10 ^ e := by
  obtain ⟨n, rfl⟩ := Int.eq_ofNat_of_zero_le h
  simp only [zpow_natCast]
  gcongr
  norm_num

lemma pow_ten_ge (h : e ≤ 0) : (10 : ℚ) ^ e ≤ 2 ^ e := by
  obtain ⟨n, hn⟩ := Int.eq_ofNat_of_zero_le (Int.neg_nonneg.2 h)
  obtain rfl : e = -n := by omega
  rw [zpow_neg, zpow_neg, zpow_natCast, zpow_natCast]
  gcongr
  norm_num

lemma le_log_of_large (hm : 0 < m) (he : 0 ≤ e) : e ≤ Int.log 2 (m * 10 ^ e : ℚ) := by
  have hm' : (1 : ℚ) ≤ m := by exact_mod_cast hm
  refine (Int.zpow_le_iff_le_log Nat.one_lt_two (by positivity)).1 ?_
  calc ((2 : Nat) : ℚ) ^ e ≤ 10 ^ e := pow_ten_le he
    _ ≤ m * 10 ^ e := le_mul_of_one_le_left (by positivity) hm'

lemma log_lt_of_small (hm : 0 < m) (he : e ≤ 0) :
    Int.log 2 (m * 10 ^ e : ℚ) < m.log2 + 1 + e := by
  have hm' : (0 : ℚ) < m := by exact_mod_cast hm
  have hu : (m : ℚ) < 2 ^ (m.log2 + 1) := by exact_mod_cast Nat.lt_log2_self
  refine (Int.lt_zpow_iff_log_lt Nat.one_lt_two (by positivity)).1 ?_
  calc (m : ℚ) * 10 ^ e ≤ m * 2 ^ e := mul_le_mul_of_nonneg_left (pow_ten_ge he) hm'.le
    _ < 2 ^ (m.log2 + 1) * 2 ^ e := mul_lt_mul_of_pos_right hu (by positivity)
    _ = ((2 : Nat) : ℚ) ^ (m.log2 + 1 + e : Int) := by
      rw [Nat.cast_ofNat, zpow_add₀ two_ne_zero]
      norm_cast

lemma ten_pow_toNat (h : 0 ≤ e) : ((10 ^ e.toNat : Nat) : ℚ) = 10 ^ e := by
  rw [Nat.cast_pow, ← zpow_natCast, Int.toNat_of_nonneg h]
  rfl

lemma product_value (h : 0 ≤ e) :
    ((m <<< 53 : Nat) : ℚ) * 2 ^ (-53 : Int) * ((10 ^ e.toNat : Nat) * 2 ^ (0 : Int)) =
      m * 10 ^ e := by
  have hshift : ((2 ^ 53 : Nat) : ℚ) * 2 ^ (-53 : Int) = 1 := by norm_num
  rw [ten_pow_toNat h, Nat.shiftLeft_eq, zpow_zero, mul_one, Nat.cast_mul, mul_assoc (m : ℚ),
    hshift, mul_one]

lemma quotient_value (h : e ≤ 0) :
    (m : ℚ) * 2 ^ (0 : Int) / ((10 ^ (-e).toNat : Nat) * 2 ^ (0 : Int)) = m * 10 ^ e := by
  rw [ten_pow_toNat (Int.neg_nonneg.2 h), zpow_zero, mul_one, mul_one, zpow_neg, div_inv_eq_mul]

/-- The long way: a product or a quotient of whole numbers. -/
lemma ofScientific_eq (m : Nat) (e : Int) :
    pack .binary64 (UnpackedFloat.ofScientific .binary64 m e) =
      pack .binary64 (nearest .positive (m * 10 ^ e)) := by
  rw [UnpackedFloat.ofScientific]
  by_cases h : m = 0
  · rw [dif_pos h, h, Nat.cast_zero, zero_mul, nearest_zero]
  have hm : 0 < m := Nat.pos_of_ne_zero h
  have hm' : (0 : ℚ) < m := by exact_mod_cast hm
  have hq : (0 : ℚ) < m * 10 ^ e := by positivity
  rw [dif_neg h]
  by_cases hlarge : 2048 < e
  · have := le_log_of_large (e := e) hm (by omega)
    exact (congrArg _ (if_pos hlarge)).trans (nearest_large .positive hq (by omega)).symm
  refine (congrArg _ (if_neg hlarge)).trans ?_
  by_cases hsmall : e < -(2048 + (m.log2 : Int))
  · have := log_lt_of_small (e := e) hm (by omega)
    rw [nearest_small .positive hq (by omega)]
    exact congrArg _ (if_pos hsmall)
  refine (congrArg _ (if_neg hsmall)).trans ?_
  by_cases he : 0 ≤ e
  · rw [if_pos he]
    have hlog := le_log_of_large (e := e) hm he
    rw [← product_value he] at hlog ⊢
    have ht : (-53 : Int) + 0 ≤
        target ((m <<< 53 : Nat) * 2 ^ (-53 : Int) * ((10 ^ e.toNat : Nat) * 2 ^ (0 : Int))) := by
      rw [target]
      omega
    exact congrArg (pack .binary64) (mul_eq _ _ ht)
  · rw [if_neg he, ← quotient_value (by omega)]
    exact congrArg (pack .binary64) (div_eq _ _)

/-- A number of few enough bits is a float. -/
lemma exists_canonical (hm : 0 < m) (h : m.log2 ≤ 52) (he : -1074 ≤ e) :
    ∃ m' e', 0 < m' ∧ Canonical m' e' ∧ e' ≤ e ∧ (m' * 2 ^ e' : ℚ) = m * 2 ^ e := by
  generalize hk : min (52 - m.log2) (e + 1074).toNat = k
  have hlog : (m * 2 ^ k).log2 = m.log2 + k := by
    rw [Nat.log2_eq_iff (by positivity), Nat.pow_add, Nat.add_right_comm, Nat.pow_add]
    exact ⟨Nat.mul_le_mul_right _ (Nat.log2_self_le hm.ne'),
      Nat.mul_lt_mul_of_pos_right Nat.lt_log2_self (by positivity)⟩
  refine ⟨m * 2 ^ k, e - k, by positivity, canonical_iff.2 (by omega), by omega, ?_⟩
  rw [zpow_sub₀ two_ne_zero, zpow_natCast]
  push_cast
  field_simp

/-- A float that is the positive number `q`. -/
def Exactly (x : Float) (q : ℚ) : Prop :=
  ∃ m e hm, x.toModel.unpack = .finite .positive m e hm ∧ Canonical m e ∧ (m * 2 ^ e : ℚ) = q

lemma exactly_whole (hm : 0 < m) (h : m < 2 ^ 53) : Exactly m.toUInt64.toFloat m := by
  have hlog : m.log2 ≤ 52 := by
    have := (Nat.log2_lt hm.ne').2 h
    omega
  obtain ⟨m', e, hm', hc, he, hv⟩ := exists_canonical (e := 0) hm hlog (by omega)
  rw [zpow_zero, mul_one] at hv
  refine ⟨m', e, hm', ?_, hc, hv⟩
  have hn : m.toUInt64.toNat = m := Nat.mod_eq_of_lt (by omega)
  have hround : UnpackedFloat.ofUInt64 .binary64 m.toUInt64 = .finite .positive m' e hm' := by
    rw [UnpackedFloat.ofUInt64, UnpackedFloat.ofNat, UnpackedFloat.ofInt, hn,
      UnpackedFloat.normalize]
    have hcmp : compare (m : Int) 0 = .gt := by
      rw [Int.compare_eq_gt]
      omega
    rw [hcmp]
    change UnpackedFloat.round .binary64 .positive (m : Int).toNat 0 = _
    rw [Int.toNat_natCast, round_eq .positive hm, zpow_zero, mul_one, ← hv,
      nearest_canonical .positive hm' hc]
  change unpack .binary64 (pack .binary64 (UnpackedFloat.ofUInt64 .binary64 m.toUInt64)) = _
  rw [hround]
  exact unpack_pack hc (by omega)

/-- The number of a positive float with an exponent up to zero is the power of ten. -/
def isPower (k : Nat) : UnpackedFloat → Bool
  | .finite .positive m e _ => m * 2 ^ e.toNat = 10 ^ k * 2 ^ (-e).toNat
  | _ => false

lemma isPower_table :
    ∀ k : Fin 23, isPower k (Float.exactlyRepresentablePowersOfTen[k]).toModel.unpack := by
  decide +kernel

lemma exactly_power (k : Fin 23) :
    Exactly Float.exactlyRepresentablePowersOfTen[k] (10 ^ (k : Nat)) := by
  have hp := isPower_table k
  generalize Float.exactlyRepresentablePowersOfTen[k] = x at hp ⊢
  rcases hu : x.toModel.unpack with _ | _ | _ | ⟨s, m, e, hm⟩ <;> rw [hu] at hp
  · cases hp
  · cases hp
  · cases hp
  · cases s with
    | negative => cases hp
    | positive =>
      have hp : m * 2 ^ e.toNat = 10 ^ (k : Nat) * 2 ^ (-e).toNat := of_decide_eq_true hp
      have hp' : (m : ℚ) * 2 ^ e.toNat = 10 ^ (k : Nat) * 2 ^ (-e).toNat := by exact_mod_cast hp
      refine ⟨m, e, hm, hu, (canonical_unpack hu).1, ?_⟩
      have h2 : (2 : ℚ) ^ (-e).toNat ≠ 0 := by positivity
      rw [← two_pow_toNat e, ← mul_assoc, mul_right_comm] at hp'
      exact mul_right_cancel₀ h2 hp'

lemma le_target_mul {m₁ m₂ : Nat} {e₁ e₂ : Int} (h₁ : 0 < m₁) (h₂ : 0 < m₂) (hc₁ : Canonical m₁ e₁)
    (hc₂ : Canonical m₂ e₂) : e₁ + e₂ ≤ target (m₁ * 2 ^ e₁ * (m₂ * 2 ^ e₂)) := by
  have hm₁ : (0 : ℚ) < m₁ := by exact_mod_cast h₁
  have hm₂ : (0 : ℚ) < m₂ := by exact_mod_cast h₂
  have hl₁ : (2 : ℚ) ^ m₁.log2 ≤ m₁ := by exact_mod_cast Nat.log2_self_le h₁.ne'
  have hl₂ : (2 : ℚ) ^ m₂.log2 ≤ m₂ := by exact_mod_cast Nat.log2_self_le h₂.ne'
  have hlog : m₁.log2 + e₁ + (m₂.log2 + e₂) ≤ Int.log 2 (m₁ * 2 ^ e₁ * (m₂ * 2 ^ e₂) : ℚ) := by
    refine (Int.zpow_le_iff_le_log Nat.one_lt_two (by positivity)).1 ?_
    rw [Nat.cast_ofNat, zpow_add₀ two_ne_zero, zpow_add₀ two_ne_zero, zpow_add₀ two_ne_zero,
      zpow_natCast, zpow_natCast]
    gcongr
  rw [canonical_iff] at hc₁ hc₂
  rw [target]
  omega

variable {x y : Float} {r : ℚ}

lemma mul_exactly (hx : Exactly x q) (hy : Exactly y r) :
    x * y = .ofModel (.pack (nearest .positive (q * r))) := by
  obtain ⟨m₁, e₁, h₁, hu₁, hc₁, rfl⟩ := hx
  obtain ⟨m₂, e₂, h₂, hu₂, hc₂, rfl⟩ := hy
  change Float.ofModel (.pack (UnpackedFloat.mul .binary64 x.toModel.unpack y.toModel.unpack)) = _
  rw [hu₁, hu₂, mul_eq h₁ h₂ (le_target_mul h₁ h₂ hc₁ hc₂)]
  rfl

lemma div_exactly (hx : Exactly x q) (hy : Exactly y r) :
    x / y = .ofModel (.pack (nearest .positive (q / r))) := by
  obtain ⟨m₁, e₁, h₁, hu₁, hc₁, rfl⟩ := hx
  obtain ⟨m₂, e₂, h₂, hu₂, hc₂, rfl⟩ := hy
  change Float.ofModel (.pack (UnpackedFloat.div .binary64 x.toModel.unpack y.toModel.unpack)) = _
  rw [hu₁, hu₂, div_eq h₁ h₂]
  rfl

lemma zero_exactly (hy : Exactly y r) :
    (0 : Nat).toUInt64.toFloat * y = .ofModel (.pack (.zero .positive)) ∧
      (0 : Nat).toUInt64.toFloat / y = .ofModel (.pack (.zero .positive)) := by
  obtain ⟨m, e, h, hu, -, -⟩ := hy
  have hz : (0 : Nat).toUInt64.toFloat.toModel.unpack = .zero .positive := unpack_zero .positive
  constructor
  · change Float.ofModel (.pack (UnpackedFloat.mul .binary64 _ y.toModel.unpack)) = _
    rw [hz, hu]
    rfl
  · change Float.ofModel (.pack (UnpackedFloat.div .binary64 _ y.toModel.unpack)) = _
    rw [hz, hu]
    rfl

/-- The short way: a product or a quotient of two floats. -/
lemma ofScientific_short {k : Nat} (h : m < 2 ^ 53) (hy : Exactly y (10 ^ k)) :
    m.toUInt64.toFloat * y = .ofModel (.pack (nearest .positive (m * 10 ^ (k : Int)))) ∧
      m.toUInt64.toFloat / y = .ofModel (.pack (nearest .positive (m * 10 ^ (-k : Int)))) := by
  rcases Nat.eq_zero_or_pos m with rfl | hm
  · simpa [nearest_zero] using zero_exactly hy
  · rw [mul_exactly (exactly_whole hm h) hy, div_exactly (exactly_whole hm h) hy, zpow_natCast,
      zpow_neg, zpow_natCast, div_eq_mul_inv]
    exact ⟨rfl, rfl⟩

end

end Rounding

namespace Decimal

open Rounding

/-- The number that the decimal is. -/
def value (d : Decimal) : ℚ :=
  d.digits * 10 ^ d.exponent

lemma ofScientific_false (m e : Nat) :
    Float.ofScientific m false e = .ofModel (.pack (nearest .positive (m * 10 ^ (e : Int)))) := by
  rw [Float.ofScientific]
  split
  · next h => exact (ofScientific_short h.1 (exactly_power ⟨e, Nat.lt_succ_of_le h.2⟩)).1
  · exact congrArg Float.ofModel (pack_congr (ofScientific_eq m e))

lemma ofScientific_true (m e : Nat) :
    Float.ofScientific m true e = .ofModel (.pack (nearest .positive (m * 10 ^ (-e : Int)))) := by
  rw [Float.ofScientific]
  split
  · next h => exact (ofScientific_short h.1 (exactly_power ⟨e, Nat.lt_succ_of_le h.2⟩)).2
  · have he : (-e : Int) = Int.negOfNat e := Int.negOfNat_eq.symm
    rw [he]
    exact congrArg Float.ofModel (pack_congr (ofScientific_eq m (Int.negOfNat e)))

/-- **A decimal is read as the nearest float of its number.** -/
theorem toFloat_eq (d : Decimal) : d.toFloat = .ofModel (.pack (nearest .positive d.value)) := by
  obtain ⟨m, e⟩ := d
  cases e with
  | ofNat e => exact ofScientific_false m e
  | negSucc e => exact ofScientific_true m (e + 1)

lemma signed_toFloat (d : Decimal) : Signed .positive d.toFloat.toModel.unpack := by
  rw [toFloat_eq]
  refine signed_pack ?_
  rw [nearest]
  exact signed_finish .positive _ _

/-! ### The shortest decimal -/

section

open Float.Model.UnpackedFloat

variable {x y : Float} {m : Nat} {e : Int} {hm : 0 < m}

lemma exact_units (m k : Nat) (he : -(k : Int) ≤ e) :
    ((m * 2 ^ (e + k).toNat * Nat.pow 5 k : Nat) : ℚ) * 10 ^ (-(k : Int)) = m * 2 ^ e := by
  have h2 : (2 : ℚ) ^ (e + k).toNat = 2 ^ e * 2 ^ k := by
    rw [← zpow_natCast, Int.toNat_of_nonneg (by omega), zpow_add₀ two_ne_zero, zpow_natCast]
  have h10 : (10 : ℚ) ^ k = 2 ^ k * 5 ^ k := by
    rw [← mul_pow]
    norm_num
  rw [Nat.pow_eq]
  push_cast
  rw [h2, zpow_neg, zpow_natCast, h10]
  field_simp

lemma value_exact {s : Sign} (h : x.toModel.unpack = .finite s m e hm) :
    (exact x).value = m * 2 ^ e := by
  have he : -(places : Int) ≤ e := by
    have := canonical_iff.1 (canonical_unpack h).1
    rw [places]
    omega
  have hu : units x = m * 2 ^ (e + places).toNat := by
    rw [units, h]
    exact Nat.shiftLeft_eq _ _
  rw [value, exact, hu]
  exact exact_units m places he

lemma toFloat_exact (h : x.toModel.unpack = .finite .positive m e hm) : (exact x).toFloat = x := by
  rw [toFloat_eq, value_exact h, nearest_canonical .positive hm (canonical_unpack h).1]
  exact float_eq h

/-- A float that is equal to a positive one is this float: only the zeroes are equal and
not the same. -/
lemma eq_of_float_beq (h : x.toModel.unpack = .finite .positive m e hm) (hy : (y == x) = true) :
    y = x := by
  change (y.toModel.unpack.compare x.toModel.unpack == some .eq) = true at hy
  rw [h] at hy
  rcases hu : y.toModel.unpack with s | _ | s | ⟨s, n, k, hn⟩ <;> rw [hu] at hy
  case finite =>
    cases s with
    | negative => cases hy
    | positive =>
      change (some ((compare k e).then (compare n m)) == some .eq) = true at hy
      obtain ⟨rfl, rfl⟩ : k = e ∧ n = m := by simpa [Ordering.then_eq_eq] using hy
      exact (float_eq hu).symm.trans (float_eq h)
  all_goals try cases s
  all_goals cases hy

lemma toFloat_shorten (h : x.toModel.unpack = .finite .positive m e hm) {d : Decimal}
    (hd : d.toFloat = x) (drop : Nat) : (shorten x d drop).toFloat = x := by
  induction drop with
  | zero => exact hd
  | succ drop ih =>
    rw [shorten]
    cases hc : cut? x d (drop + 1) with
    | none => exact ih
    | some d' =>
      unfold cut? at hc
      simp only
      have := List.find?_some hc
      exact eq_of_float_beq h this

/-- The shortest decimal of a float is read as this float. -/
theorem toFloat_shortest (h : x.toModel.unpack = .finite .positive m e hm) :
    (shortest x).toFloat = x :=
  toFloat_shorten h (toFloat_exact h) _

lemma shortest_pos (h : x.toModel.unpack = .finite .positive m e hm) : 0 < (shortest x).digits := by
  refine Nat.pos_of_ne_zero fun h0 => ?_
  have hx := toFloat_shortest h
  rw [toFloat_eq, value, h0, Nat.cast_zero, zero_mul, nearest_zero] at hx
  have hz : unpack .binary64 (pack .binary64 (.zero .positive)) = x.toModel.unpack := by
    rw [← hx]
    rfl
  rw [unpack_zero, h] at hz
  cases hz

end

end Decimal

end Reckon
