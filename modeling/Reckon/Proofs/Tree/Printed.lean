import Reckon.Operator.Real
import Reckon.Proofs.Tree.Text

/-!
The tree of a printed value. The printed form of every value is read as a tree of literals, minus
signs, words and tuples, within one level more than the value has tuples inside each other: a minus
sign stands before the digits of a negative number, infinite floats and NaN are words, and
parentheses around a single item are a group.
-/

namespace Reckon

open Token

namespace Value

mutual

/-- How many tuples stand inside each other. -/
def nesting : Value → Nat
  | tuple items => mostNesting items + 1
  | _ => 0

def mostNesting : List Value → Nat
  | [] => 0
  | v :: vs => max v.nesting (mostNesting vs)

end

/-- What digits stand for: an integer if it fits, else a float. -/
def numeral (n : Nat) : Value :=
  if n ≤ greatest then .int n else .float (Decimal.toFloat ⟨n, 0⟩)

/-- What the text of a float without a minus sign stands for. -/
def unsigned (x : Float) : Tree :=
  if x.isNaN then .name "nan" else if x.isInf then .name "inf" else .literal (.float x)

mutual

/-- The tree that the printed form of the value is read as. -/
def tree : Value → Tree
  | int n =>
    if n < 0 then .unary .neg (.literal (numeral n.natAbs)) else .literal (numeral n.natAbs)
  | float x => if Real.negative x then .unary .neg (unsigned (-x)) else unsigned x
  | tuple items => .group (trees items)
  | v => .literal v

def trees : List Value → List Tree
  | [] => []
  | v :: vs => v.tree :: trees vs

end

end Value

namespace Real

open Rounding

lemma negative_iff (x : Float) : negative x = true ↔ Signed .negative x.toModel.unpack := by
  rw [Real.negative]
  rcases x.toModel.unpack with s | _ | s | ⟨s, m, e, hm⟩
  case notANumber => exact ⟨nofun, nofun⟩
  all_goals
    cases s with
    | negative => exact ⟨fun _ => rfl, fun _ => rfl⟩
    | positive => exact ⟨nofun, nofun⟩

lemma signed_positive {x : Float} (h : negative x = false) (hn : x.isNaN = false) :
    Signed .positive x.toModel.unpack := by
  have hn : x.toModel.unpack.isNaN = false := hn
  have h : ¬ Signed .negative x.toModel.unpack := by
    rw [← negative_iff, h]
    exact nofun
  rcases hu : x.toModel.unpack with s | _ | s | ⟨s, m, e, hm⟩ <;> rw [hu] at h hn
  case notANumber => cases hn
  all_goals cases s <;> first | rfl | exact absurd rfl h

end Real

namespace Tree

open Value (numeral unsigned)

lemma spells_numeral (n : Nat) : Spells (toString n) 0 (.literal (numeral n)) := by
  by_cases hn : n ≤ greatest
  · rw [numeral, if_pos hn]
    have hw : (Tree.literal (.int n)).Written := ⟨Int.natCast_nonneg n, hn⟩
    have h := spells_tree hw trivial
    have ht : (Tree.literal (.int n)).text = toString n := rfl
    rwa [ht] at h
  · -- too many digits for an integer, so the scan takes them for a float
    have htext : toString n = String.ofList (Nat.toDigits 10 n) := rfl
    have hd := Text.digits_toDigits n
    have hne : Nat.toDigits 10 n ≠ [] := Nat.toDigits_ne_nil
    rw [numeral, if_neg hn, htext]
    refine ⟨[(.float, String.ofList (Nat.toDigits 10 n))], .cons nofun .nil, fun rest hr => ?_,
      fun limit d c rest h _ _ => ?_⟩
    · have hs : Scans false _ _ _ rest := scans_number hd hne .none .none hr
      have hfit : fits (Nat.toDigits 10 n) = false := by
        have h0 : 0 ≤ greatest := by decide
        rw [← Bool.not_eq_true, fits_iff hd, Text.numeral_toDigits]
        omega
      simpa [hfit] using hs
    · have hk : c.current.kind = .float := h.kind
      have hread : Decimal.read? (String.ofList (Nat.toDigits 10 n)) =
          some (Decimal.toFloat ⟨n, 0⟩) := by
        have := Decimal.read?_shape hd hne .none .none
        simpa [Text.numeral_toDigits] using this
      refine ⟨_, Builder.signed_literal ?_, h.advance.rest_eq⟩
      rw [Builder.literal?, hk]
      simp only [h.text, hread]

lemma isName_nan : IsName "nan" :=
  ⟨⟨'n', ['a', 'n'], rfl, .inl rfl, List.all_eq_true.1 rfl⟩, by decide, by decide⟩

lemma spells_unsigned {x : Float}
    (h : x.isNaN = false → Rounding.Signed .positive x.toModel.unpack) :
    Spells (Decimal.write x) 0 (unsigned x) := by
  rw [unsigned]
  split
  · next hn =>
    rw [Decimal.write_nan hn]
    exact spells_tree (t := .name "nan") isName_nan trivial
  · next hn =>
    have hpos := h (Bool.eq_false_iff.2 hn)
    split
    · next hi =>
      rw [Decimal.write_infinite hpos hi]
      exact spells_tree (t := .name "inf") isName_inf trivial
    · next hi => exact spells_tree (t := .literal (.float x)) hpos (Bool.eq_false_iff.2 hi)

lemma spells_int (n : Int) : Spells (Value.int n).text 1 (Value.int n).tree := by
  rw [Value.tree]
  split
  · next hn =>
    obtain ⟨m, rfl⟩ := Int.eq_negSucc_of_lt_zero hn
    exact (spells_numeral (m + 1)).negative
  · next hn =>
    obtain ⟨m, rfl⟩ := Int.eq_ofNat_of_zero_le (Int.not_lt.1 hn)
    exact (spells_numeral m).mono (by omega)

lemma spells_float (x : Float) : Spells (Value.float x).text 1 (Value.float x).tree := by
  rw [Value.tree, Value.text]
  split
  · next hx =>
    have hneg := (Real.negative_iff x).1 hx
    rw [Decimal.write_negative hneg]
    refine (spells_unsigned fun _ => ?_).negative
    rw [Rounding.unpack_neg]
    exact Rounding.signed_neg hneg
  · next hx =>
      exact (spells_unsigned (Real.signed_positive (Bool.eq_false_iff.2 hx))).mono (by omega)

mutual

/-- Every printed value is read as its tree, wherever it stands. -/
theorem spells_value (v : Value) : Spells v.text (v.nesting + 1) v.tree := by
  match v with
  | .int n => exact spells_int n
  | .float x => exact spells_float x
  | .boolean b =>
    exact (spells_tree (t := .literal (.boolean b)) trivial trivial).mono (Nat.zero_le _)
  | .string s =>
    exact (spells_tree (t := .literal (.string s)) trivial trivial).mono (Nat.zero_le _)
  | .empty => exact (spells_tree (t := .literal .empty) trivial trivial).mono (Nat.zero_le _)
  | .tuple [] => exact (spells_tree (t := .literal .empty) trivial trivial).mono (Nat.zero_le _)
  | .tuple (v :: vs) =>
    refine ((spells_value v).group (spells_values vs)).mono ?_
    rw [Value.nesting, Value.mostNesting]
    omega

lemma spells_values (vs : List Value) :
    SpellsMore (Value.texts vs) (Value.mostNesting vs + 1) (Value.trees vs) := by
  match vs with
  | [] => exact spellsMore_nil
  | v :: vs =>
    have h := (spells_value v).more (spells_values vs)
    rw [Nat.add_max_add_right] at h
    exact h

end

end Tree

end Reckon
