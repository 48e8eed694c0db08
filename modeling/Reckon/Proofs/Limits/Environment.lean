import Mathlib.Tactic.Lemma
import Reckon.Limits.Environment

/-!
The limits of an environment. Whatever the settings say, the limits are positive, the nesting is at
most what the stack carries, and what is built within it can be evaluated.
-/

namespace Reckon.Limits

lemma one_le_ceiling (stack : Int) : 1 ≤ ceiling stack := by
  unfold ceiling
  omega

lemma cap_le (stack n : Int) : (cap stack n).1 ≤ n := by
  unfold cap
  split <;> dsimp only <;> omega

lemma cap_le_ceiling (stack n : Int) : (cap stack n).1 ≤ ceiling stack := by
  unfold cap
  split <;> dsimp only <;> omega

/-- The ceiling is positive, so a cap takes no limit below what was asked for, or one. -/
lemma le_cap (stack : Int) {n k : Int} (hk : k ≤ n) (h₁ : k ≤ 1) : k ≤ (cap stack n).1 := by
  have := one_le_ceiling stack
  unfold cap
  split <;> dsimp only <;> omega

lemma one_le_default (s : Setting) : 1 ≤ s.default := by
  cases s <;> decide

/-- Every raw text of a setting gives a positive number. -/
lemma one_le_setting (s : Setting) (raw : Option String) : 1 ≤ (setting s raw).1 := by
  have hd := one_le_default s
  rcases raw with _ | raw
  · exact hd
  rw [setting]
  split
  · exact hd
  split
  · exact hd
  split
  · exact hd
  · dsimp only
    omega

lemma make_eq_ok {nesting depth : Int} (hn : 1 ≤ nesting) (hd : 1 ≤ depth) :
    make nesting depth = .ok ⟨nesting, depth⟩ := by
  rw [make, if_neg (by omega), if_neg (by omega)]

/-- What the limits are from which the greater of two is taken as the depth. -/
lemma ofEnvironment_eq (e : Environment) :
    (ofEnvironment e).1 =
      ⟨(cap e.stack (setting .nesting e.nesting).1).1,
        max (cap e.stack (setting .nesting e.nesting).1).1 (setting .depth e.depth).1⟩ := by
  simp only [ofEnvironment]
  split
  · next h => rw [Int.max_eq_left (by omega)]
  · next h => rw [Int.max_eq_right (by omega)]

/-- The limits of an environment are limits, and the depth covers the nesting. -/
structure Sound (stack : Int) (l : Limits) : Prop where
  positive : 1 ≤ l.nesting
  carried : l.nesting ≤ ceiling stack
  covered : l.nesting ≤ l.depth
  made : make l.nesting l.depth = .ok l

theorem sound_ofEnvironment (e : Environment) : Sound e.stack (ofEnvironment e).1 := by
  have hn := one_le_setting .nesting e.nesting
  have hd := one_le_setting .depth e.depth
  have h₁ := le_cap e.stack hn (Int.le_refl 1)
  rw [ofEnvironment_eq]
  exact ⟨h₁, cap_le_ceiling _ _, Int.le_max_left _ _, make_eq_ok h₁ (by dsimp only; omega)⟩

end Reckon.Limits
