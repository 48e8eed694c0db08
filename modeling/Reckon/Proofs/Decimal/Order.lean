import Reckon.Proofs.Decimal.Nearest

/-!
How floats compare. A float that is a number or infinite stands at a place among triples of
integers, which are ordered by their first difference, so comparison is a linear order of the floats
without NaN, where the two zeroes share a place; NaN does not compare. A float made from an integer
is never NaN.
-/

namespace Reckon

open Float.Model Float.Model.UnpackedFloat

/-! ### Linear orders -/

/-- Two comparisons that are not upward make the third. -/
lemma then_of_trans {α : Type} {cmp : α → α → Ordering} [Std.TransCmp cmp] {a b c : α}
    (hab : cmp a b ≠ .gt) (hbc : cmp b c ≠ .gt) : cmp a c = (cmp a b).then (cmp b c) := by
  cases h : cmp a b with
  | gt => exact absurd h hab
  | eq =>
    cases h' : cmp b c with
    | gt => exact absurd h' hbc
    | eq => exact Std.TransCmp.eq_trans h h'
    | lt => exact Std.TransCmp.lt_of_eq_of_lt h h'
  | lt =>
    cases h' : cmp b c with
    | gt => exact absurd h' hbc
    | eq => exact Std.TransCmp.lt_of_lt_of_eq h h'
    | lt => exact Std.TransCmp.lt_trans h h'

/-- Triples of integers, compared at their first difference. -/
def triples : Int × Int × Int → Int × Int × Int → Ordering :=
  compareLex (compareOn (·.1)) (compareLex (compareOn (·.2.1)) (compareOn (·.2.2)))

instance : Std.TransCmp triples :=
  inferInstanceAs (Std.TransCmp (compareLex _ _))

lemma triples_same (a b c b' c' : Int) :
    triples (a, b, c) (a, b', c') = (compare b b').then (compare c c') := by
  change (compare a a).then ((compare b b').then (compare c c')) = _
  rw [compare_eq_iff_eq.2 rfl]
  rfl

lemma compare_neg_neg (a b : Int) : compare (-a) (-b) = (compare a b).swap := by
  rcases lt_trichotomy a b with h | rfl | h
  · rw [compare_lt_iff_lt.2 h, compare_gt_iff_gt.2 (by omega)]
    rfl
  · simp
  · rw [compare_gt_iff_gt.2 h, compare_lt_iff_lt.2 (by omega)]
    rfl

namespace Rounding

/-- The place of a float: what it is with the sign, and the exponent and the mantissa of
a finite number. -/
def place : UnpackedFloat → Option (Int × Int × Int)
  | .notANumber => none
  | .infinity .negative => some (-2, 0, 0)
  | .finite .negative m e _ => some (-1, -e, -m)
  | .zero _ => some (0, 0, 0)
  | .finite .positive m e _ => some (1, e, m)
  | .infinity .positive => some (2, 0, 0)

lemma compare_natCast (m n : Nat) : compare (m : Int) n = compare m n := by
  rcases lt_trichotomy m n with h | rfl | h
  · rw [compare_lt_iff_lt.2 h, compare_lt_iff_lt.2 (Int.ofNat_lt.2 h)]
  · simp
  · rw [compare_gt_iff_gt.2 h, compare_gt_iff_gt.2 (Int.ofNat_lt.2 h)]

/-- Floats compare as their places do. -/
theorem compare_place (u v : UnpackedFloat) :
    u.compare v = (do return triples (← place u) (← place v) : Option Ordering) := by
  rcases u with s | _ | s | ⟨s, m, e, hm⟩ <;> rcases v with t | _ | t | ⟨t, n, k, hn⟩ <;>
    try cases s <;> try cases t
  case finite.finite.negative.negative =>
    change some ((compare e k).then (compare m n)).swap = some (triples (-1, -e, -m) (-1, -k, -n))
    rw [triples_same, compare_neg_neg, compare_neg_neg, compare_natCast, Ordering.swap_then]
  case finite.finite.positive.positive =>
    change some ((compare e k).then (compare m n)) = some (triples (1, e, m) (1, k, n))
    rw [triples_same, compare_natCast]
  all_goals rfl

lemma place_eq_none {x : Float} : place x.toModel.unpack = none ↔ x.isNaN = true := by
  change _ ↔ x.toModel.unpack.isNaN = true
  rcases x.toModel.unpack with s | _ | s | ⟨s, m, e, hm⟩ <;> try cases s
  case notANumber => exact iff_of_true rfl rfl
  all_goals exact iff_of_false nofun nofun

lemma Signed.isNaN {s : Sign} {x : Float} (h : Signed s x.toModel.unpack) : x.isNaN = false := by
  change x.toModel.unpack.isNaN = false
  cases hu : x.toModel.unpack with
  | notANumber => rw [hu] at h; cases h
  | infinity | zero | finite => rfl

end Rounding

namespace Real

open Rounding

variable {x y z : Float} {o p : Ordering}

lemma compare_swap (x y : Float) :
    y.toModel.compare x.toModel = (x.toModel.compare y.toModel).map .swap := by
  change y.toModel.unpack.compare x.toModel.unpack =
    (x.toModel.unpack.compare y.toModel.unpack).map .swap
  rw [compare_place, compare_place]
  cases place x.toModel.unpack with
  | none => cases place y.toModel.unpack <;> rfl
  | some a =>
    cases place y.toModel.unpack with
    | none => rfl
    | some b => exact congrArg some Std.OrientedCmp.eq_swap

/-- Only NaN does not compare. -/
lemma compare_eq_none : x.toModel.compare y.toModel = none ↔ x.isNaN = true ∨ y.isNaN = true := by
  change x.toModel.unpack.compare y.toModel.unpack = none ↔ _
  rw [compare_place, ← place_eq_none, ← place_eq_none]
  cases place x.toModel.unpack <;> cases place y.toModel.unpack <;> simp

lemma compare_self (h : x.isNaN = false) : x.toModel.compare x.toModel = some .eq := by
  change x.toModel.unpack.compare x.toModel.unpack = some .eq
  rw [compare_place]
  cases hx : place x.toModel.unpack with
  | none => rw [place_eq_none.1 hx] at h; cases h
  | some a => exact congrArg some Std.ReflCmp.compare_self

lemma beq_self (h : x.isNaN = false) : (x == x) = true := by
  change (x.toModel.compare x.toModel == some .eq) = true
  rw [compare_self h]
  rfl

lemma compare_trans (hxy : x.toModel.compare y.toModel = some o)
    (hyz : y.toModel.compare z.toModel = some p) (ho : o ≠ .gt) (hp : p ≠ .gt) :
    x.toModel.compare z.toModel = some (o.then p) := by
  change x.toModel.unpack.compare y.toModel.unpack = some o at hxy
  change y.toModel.unpack.compare z.toModel.unpack = some p at hyz
  change x.toModel.unpack.compare z.toModel.unpack = some (o.then p)
  rw [compare_place] at *
  cases hx : place x.toModel.unpack with
  | none => rw [hx] at hxy; cases hxy
  | some a =>
    cases hy : place y.toModel.unpack with
    | none => rw [hx, hy] at hxy; cases hxy
    | some b =>
      cases hz : place z.toModel.unpack with
      | none => rw [hy, hz] at hyz; cases hyz
      | some c =>
        rw [hx, hy] at hxy
        rw [hy, hz] at hyz
        cases hxy
        cases hyz
        exact congrArg some (then_of_trans ho hp)

/-- A float made from an integer has a sign, so it is not NaN. -/
lemma isNaN_ofInt (n : Int) : (Float.ofInt n).isNaN = false := by
  cases n with
  | ofNat n => exact (Decimal.signed_toFloat ⟨n, 0⟩).isNaN
  | negSucc n =>
    change (-(⟨n + 1, 0⟩ : Decimal).toFloat).isNaN = false
    rw [isNaN_neg]
    exact (Decimal.signed_toFloat _).isNaN

end Real

end Reckon
