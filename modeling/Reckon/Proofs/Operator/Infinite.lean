import Reckon.Operator.Apply
import Reckon.Proofs.Decimal.Order

/-!
Float arithmetic where there is no finite result. What division by zero and an overflowing power
give is told by signs and by whether the exponent is an odd number, as for numbers that are too
large. A negative power of zero is the exception: it is positive, also where the zero is negative
and the exponent odd.
-/

namespace Reckon.Real

open Float.Model Float.Model.UnpackedFloat Rounding

/-! ### The number of a float -/

/-- The number that a finite float is. -/
def value (x : Float) : ℚ :=
  match x.toModel.unpack with
  | .finite s m e _ => s.apply m * 2 ^ e
  | _ => 0

/-- One of the two zeroes. -/
def IsZero (x : Float) : Prop :=
  ∃ s, x.toModel.unpack = .zero s

variable {x y : Float} {s t : Sign}

/-- The magnitude in units of the smallest float. -/
lemma units_eq (x : Float) : (Decimal.units x : ℚ) = |value x| * Decimal.one := by
  have hone : (Decimal.one : ℚ) = 2 ^ Decimal.places := by
    rw [Decimal.one, Nat.shiftLeft_eq, one_mul]
    push_cast
    rfl
  rw [Decimal.units, value, hone]
  cases hu : x.toModel.unpack with
  | notANumber | infinity | zero => simp
  | finite s m e hm =>
    have he : 0 ≤ e + Decimal.places := by
      have := canonical_iff.1 (canonical_unpack hu).1
      rw [Decimal.places]
      omega
    have habs : |(s.apply m : ℚ)| = m := by
      cases s <;> simp [Sign.apply]
    have hpow : (2 : ℚ) ^ (e + Decimal.places).toNat = 2 ^ e * 2 ^ Decimal.places := by
      rw [← zpow_natCast, Int.toNat_of_nonneg he, zpow_add₀ two_ne_zero, zpow_natCast]
    have hshift : (m <<< (e + Decimal.places).toNat : Nat) = m * 2 ^ (e + Decimal.places).toNat :=
      Nat.shiftLeft_eq _ _
    rw [abs_mul, habs, abs_of_pos (by positivity : (0 : ℚ) < 2 ^ e)]
    dsimp only
    rw [hshift, mul_assoc, ← hpow]
    push_cast
    rfl

lemma one_pos : 0 < Decimal.one := by
  rw [Decimal.one, Nat.shiftLeft_eq]
  positivity

/-- A float is a whole number of units one exactly if its number is whole. -/
lemma units_eq_iff {n : Nat} : Decimal.units x = n * Decimal.one ↔ |value x| = n := by
  have hpos : (Decimal.one : ℚ) ≠ 0 := Nat.cast_ne_zero.2 one_pos.ne'
  rw [← Nat.cast_inj (R := ℚ), units_eq]
  push_cast
  exact mul_left_inj' hpos

lemma abs_value_iff {p : Nat → Prop} : (∃ n : Nat, p n ∧ |value x| = n) ↔
    ∃ k : ℤ, p k.natAbs ∧ value x = k := by
  constructor
  · rintro ⟨n, hp, hn⟩
    rcases abs_eq (Nat.cast_nonneg n) |>.1 hn with h | h
    · exact ⟨n, hp, by simpa using h⟩
    · exact ⟨-n, by simpa using hp, by simpa using h⟩
  · rintro ⟨k, hp, hk⟩
    exact ⟨k.natAbs, hp, by rw [hk, Nat.cast_natAbs, Int.cast_abs]⟩

lemma whole_iff (hx : x.isFinite) : whole x = true ↔ ∃ k : ℤ, value x = k := by
  have hmod : Decimal.units x % Decimal.one = 0 ↔ ∃ n : Nat, True ∧ |value x| = n := by
    rw [← Nat.dvd_iff_mod_eq_zero]
    simp only [← units_eq_iff, true_and, dvd_def, Nat.mul_comm]
  rw [whole, hx, Bool.true_and, decide_eq_true_iff, hmod, abs_value_iff]
  simp

/-- The odd multiples of a number are those that leave it over of its double. -/
lemma mod_double_iff {u d : Nat} (hd : 0 < d) : u % (2 * d) = d ↔ ∃ n, Odd n ∧ u = n * d := by
  constructor
  · intro h
    refine ⟨2 * (u / (2 * d)) + 1, ⟨_, rfl⟩, ?_⟩
    calc u = 2 * d * (u / (2 * d)) + u % (2 * d) := (Nat.div_add_mod u (2 * d)).symm
      _ = (2 * (u / (2 * d)) + 1) * d := by rw [h, Nat.add_mul, Nat.mul_right_comm, Nat.one_mul]
  · rintro ⟨n, ⟨j, rfl⟩, rfl⟩
    rw [Nat.add_mul, Nat.mul_right_comm, Nat.mul_add_mod, Nat.one_mul, Nat.mod_eq_of_lt (by omega)]

lemma odd_iff (hx : x.isFinite) : odd x = true ↔ ∃ k : ℤ, Odd k ∧ value x = k := by
  have hmod : Decimal.units x % (2 * Decimal.one) = Decimal.one ↔
      ∃ n : Nat, Odd n ∧ |value x| = n := by
    simp only [mod_double_iff one_pos, units_eq_iff]
  rw [odd, hx, Bool.true_and, decide_eq_true_iff, hmod, abs_value_iff]
  simp only [Int.natAbs_odd]

/-! ### Signs -/

lemma unpack_literal_zero : (0.0 : Float).toModel.unpack = .zero .positive :=
  rfl

lemma beq_zero_iff : (x == 0.0) = true ↔ IsZero x := by
  change (x.toModel.unpack.compare (0.0 : Float).toModel.unpack == some .eq) = true ↔ _
  rw [unpack_literal_zero, IsZero]
  cases x.toModel.unpack with
  | notANumber => exact ⟨nofun, nofun⟩
  | zero s => exact ⟨fun _ => ⟨s, rfl⟩, fun _ => rfl⟩
  | infinity s | finite s m e hm => cases s <;> exact ⟨nofun, nofun⟩

lemma lt_zero_iff (hx : x.isFinite) : x < 0.0 ↔ value x < 0 := by
  have hlt : x < 0.0 ↔ x.toModel.unpack.compare (0.0 : Float).toModel.unpack = some .lt := by
    change decide (x.toModel < (0.0 : Float).toModel) = true ↔ _
    rw [decide_eq_true_iff]
    exact beq_iff_eq
  change x.toModel.unpack.isFinite = true at hx
  rw [hlt, unpack_literal_zero, value]
  cases hu : x.toModel.unpack with
  | notANumber | infinity => rw [hu] at hx; cases hx
  | zero s => exact ⟨nofun, fun h => absurd h (lt_irrefl 0)⟩
  | finite s m e hm =>
    have hpos : (0 : ℚ) < m * 2 ^ e := by positivity
    cases s with
    | positive => exact ⟨nofun, fun h => absurd h hpos.le.not_gt⟩
    | negative =>
      refine ⟨fun _ => ?_, fun _ => rfl⟩
      change -(m : ℚ) * 2 ^ e < 0
      rw [neg_mul]
      exact neg_neg_of_pos hpos

/-- The sign that a sign bit stands for. -/
def sign (negative : Bool) : Sign :=
  if negative then .negative else .positive

lemma sign_bne (a b : Bool) : sign (a != b) = sign a * sign b := by
  cases a <;> cases b <;> rfl

lemma sign_negative (h : Signed s x.toModel.unpack) : sign (negative x) = s := by
  rw [negative]
  cases hu : x.toModel.unpack with
  | notANumber => rw [hu] at h; cases h
  | infinity t | zero t | finite t => rw [hu] at h; cases h; cases s <;> rfl

lemma unpack_signedInfinity (negative : Bool) :
    (signedInfinity negative).toModel.unpack = .infinity (sign negative) := by
  cases negative <;> rfl

/-! ### Quotients and powers -/

lemma divide_zero (hy : y.toModel.unpack = .zero t) :
    ((IsZero x ∨ x.isNaN) → (divide x y).isNaN) ∧
      ∀ s, Signed s x.toModel.unpack → ¬ IsZero x →
      (divide x y).toModel.unpack = .infinity (s * t) := by
  rw [divide, if_pos (beq_zero_iff.2 ⟨t, hy⟩)]
  have hnone : ((x == 0.0) || x.isNaN) = true ↔ IsZero x ∨ x.isNaN := by
    rw [Bool.or_eq_true, beq_zero_iff]
  refine ⟨fun h => ?_, fun s hs hx => ?_⟩
  · rw [if_pos (hnone.2 h)]
    rfl
  · have hnot : ¬ (((x == 0.0) || x.isNaN) = true) := by
      rw [hnone, hs.isNaN]
      simpa using hx
    have ht : Signed t y.toModel.unpack := by rw [hy]; rfl
    rw [if_neg hnot, unpack_signedInfinity, sign_bne, sign_negative hs, sign_negative ht]

variable {pow : Float → Float → Float}

/-- The power has operands that it is defined for, but no finite result. -/
structure Overflows (pow : Float → Float → Float) (x y : Float) : Prop where
  base : x.isFinite
  exponent : y.isFinite
  nonzero : value y < 0 → ¬ IsZero x
  defined : value x < 0 → ∃ k : ℤ, value y = k
  infinite : (pow x y).isInf

lemma powerBy_zero (hx : IsZero x) (hy : y.isFinite) (hneg : value y < 0) :
    (powerBy pow x y).toModel.unpack = .infinity .positive := by
  have hfin : x.isFinite = true := by
    obtain ⟨s, hs⟩ := hx
    change x.toModel.unpack.isFinite = true
    rw [hs]
    rfl
  rw [powerBy, hfin, hy, beq_zero_iff.2 hx, decide_eq_true ((lt_zero_iff hy).2 hneg), Bool.and_self,
    if_pos rfl, if_pos rfl]
  rfl

lemma powerBy_overflows (h : Overflows pow x y) :
    (powerBy pow x y).toModel.unpack = .infinity (sign (x < 0.0 && odd y)) := by
  have hpole : ¬ ((x == 0.0 && y < 0.0) = true) := by
    rw [Bool.and_eq_true, beq_zero_iff, decide_eq_true_iff, lt_zero_iff h.exponent]
    exact fun ⟨hx, hy⟩ => h.nonzero hy hx
  have hdomain : ¬ ((x < 0.0 && !whole y) = true) := by
    rw [Bool.and_eq_true, decide_eq_true_iff, lt_zero_iff h.base, Bool.not_eq_true']
    rintro ⟨hx, hy⟩
    rw [(whole_iff h.exponent).2 (h.defined hx)] at hy
    cases hy
  rw [powerBy, h.base, h.exponent, Bool.and_self, if_pos rfl, if_neg hpole, if_neg hdomain]
  dsimp only
  rw [if_pos h.infinite, unpack_signedInfinity]

/-- **Where there is no finite result, there is an infinite one.** The quotient by a zero is
infinite with the signs of both operands, but for zero and NaN. A power that overflows is
infinite, and negative for a negative base with an odd exponent. A negative power of either zero
is infinite and positive. -/
theorem infinite_results (pow : Float → Float → Float) (x y : Float) :
    (∀ t, y.toModel.unpack = .zero t →
      ∃ z, Binary.apply (.arith .div) (.float x) (.float y) = .ok (.float z) ∧
        (IsZero x ∨ x.isNaN → z.isNaN) ∧
        ∀ s, Signed s x.toModel.unpack → ¬ IsZero x → z.toModel.unpack = .infinity (s * t)) ∧
    Binary.apply (.arith .pow) (.float x) (.float y) = .ok (.float (powerBy Float.pow x y)) ∧
    (Overflows pow x y →
      ∃ s, (powerBy pow x y).toModel.unpack = .infinity s ∧
        (s = .negative ↔ value x < 0 ∧ ∃ k : ℤ, Odd k ∧ value y = k)) ∧
    (IsZero x → y.isFinite → value y < 0 →
      (powerBy pow x y).toModel.unpack = .infinity .positive) := by
  refine ⟨fun t ht => ⟨_, rfl, divide_zero ht⟩, rfl, fun h => ⟨_, powerBy_overflows h, ?_⟩,
    powerBy_zero⟩
  rw [← lt_zero_iff h.base, ← odd_iff h.exponent]
  by_cases hx : x < 0.0 <;> cases odd y <;> simp [hx, sign]

/-- The quotient of `-10` and zero, and the power of `-10` with the exponent `401` by a function
that overflows there, are both negative. -/
theorem infinite_results_negative :
    let pow : Float → Float → Float := fun _ _ => -infinity
    Overflows pow (-10.0) 401.0 ∧ (powerBy pow (-10.0) 401.0).toModel.unpack = .infinity .negative ∧
      ∃ z, Binary.apply (.arith .div) (.float (-10.0)) (.float 0.0) = .ok (.float z) ∧
        z.toModel.unpack = .infinity .negative := by
  intro pow
  have hten : (-10.0 : Float).toModel.unpack =
      .finite .negative 5629499534213120 (-49) (by decide) := rfl
  have hodd : (401.0 : Float).toModel.unpack =
      .finite .positive 7054466603810816 (-44) (by decide) := rfl
  have hx : value (-10.0) = -10 := by rw [value, hten]; norm_num [Sign.apply]
  have hy : value 401.0 = (401 : ℤ) := by rw [value, hodd]; norm_num [Sign.apply]
  have hzero : ¬ IsZero (-10.0) := by
    rintro ⟨s, hs⟩
    cases hten.symm.trans hs
  have ho : Overflows pow (-10.0) 401.0 :=
    ⟨rfl, rfl, fun _ => hzero, fun _ => ⟨401, hy⟩, by change (-infinity).isInf = true; rfl⟩
  obtain ⟨s, hs, hsign⟩ := (infinite_results pow (-10.0) 401.0).2.2.1 ho
  obtain rfl : s = .negative := hsign.2 ⟨by rw [hx]; norm_num, 401, by decide, hy⟩
  obtain ⟨z, hz, -, hinf⟩ := (infinite_results pow (-10.0) 0.0).1 .positive rfl
  exact ⟨ho, hs, z, hz, hinf .negative (by rw [hten]; rfl) hzero⟩

/-- Negative zero to the power of `-1`, an odd number, is positive. -/
theorem zero_power_positive :
    (-0.0 : Float).toModel.unpack = .zero .negative ∧ value (-1.0) = (-1 : ℤ) ∧ Odd (-1 : ℤ) ∧
      ∃ z, Binary.apply (.arith .pow) (.float (-0.0)) (.float (-1.0)) = .ok (.float z) ∧
        z.toModel.unpack = .infinity .positive := by
  have hone : (-1.0 : Float).toModel.unpack =
      .finite .negative 4503599627370496 (-52) (by decide) := rfl
  have hy : value (-1.0) = -1 := by rw [value, hone]; norm_num [Sign.apply]
  exact ⟨rfl, by rw [hy]; norm_num, by decide, _, rfl,
    powerBy_zero ⟨.negative, rfl⟩ rfl (by rw [hy]; norm_num)⟩

end Reckon.Real
