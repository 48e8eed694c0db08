import Reckon.Proofs.Decimal.Texts
import Reckon.Token.Lexeme

/-!
Numbers as lexemes. A number is cut off after its digits, its fraction and its exponent, where no
character may follow that could go on with it, and what else follows does not matter. Its kind tells
how it can be read: an integer as an integer in range, a float as a float that is not negative.
-/

namespace Reckon.Token

open Text Decimal

/-! ### Cutting a number off -/

/-- What comes after a printed operand: the end, a blank, a comma or a closing parenthesis. -/
def Clear (rest : List Char) : Prop :=
  ∀ d, rest.head? = some d → d = ' ' ∨ d = ',' ∨ d = ')'

/-- The character cannot go on with a number: it is no letter or digit, underscore or point. -/
structure EndsNumber (d : Char) : Prop where
  alphanumeric : alphanumeric d = false
  underscore : d ≠ '_'
  point : d ≠ '.'

section

variable {ws f fs p rest : List Char} {k : Int} {d : Char}

lemma letter_of_isAlpha (h : d.isAlpha) :
    65 ≤ d.toNat ∧ d.toNat ≤ 90 ∨ 97 ≤ d.toNat ∧ d.toNat ≤ 122 := by
  rcases Bool.or_eq_true_iff.1 h with h | h
  · exact .inl (of_decide_eq_true h)
  · exact .inr ⟨of_decide_eq_true (Bool.and_eq_true_iff.1 h).1,
      of_decide_eq_true (Bool.and_eq_true_iff.1 h).2⟩

lemma alphanumeric_of_isAlphanum (h : d.isAlphanum) : alphanumeric d := by
  have hd : d.toNat < 0x80 := by
    rcases Bool.or_eq_true_iff.1 h with h | h
    · rcases letter_of_isAlpha h with ⟨-, h⟩ | ⟨-, h⟩ <;> exact Nat.lt_of_le_of_lt h (by decide)
    · exact Nat.lt_of_le_of_lt (toNat_of_isDigit h).2 (by decide)
  rw [alphanumeric, if_pos hd]
  exact h

lemma EndsNumber.isDigit (h : EndsNumber d) : d.isDigit = false := by
  cases hd : d.isDigit with
  | false => rfl
  | true =>
    have := alphanumeric_of_isAlphanum (d := d) (by rw [Char.isAlphanum, hd, Bool.or_true])
    rw [h.alphanumeric] at this
    cases this

lemma EndsNumber.exponent (h : EndsNumber d) : d ≠ 'e' ∧ d ≠ 'E' := by
  have := h.alphanumeric
  constructor <;> rintro rfl <;> revert this <;> decide

lemma Clear.endsNumber (h : Clear rest) : ∀ d, rest.head? = some d → EndsNumber d := by
  intro d hd
  rcases h d hd with rfl | rfl | rfl <;> exact ⟨by decide, by decide, by decide⟩

lemma clear_nil : Clear [] :=
  nofun

lemma clear_cons {c : Char} (h : c = ' ' ∨ c = ',' ∨ c = ')') : Clear (c :: rest) := by
  rintro d ⟨⟩
  exact h

/-- What follows a run of characters and does not belong to it. -/
lemma span_append {q : Char → Bool} {ds : List Char} (h : ∀ c ∈ ds, q c)
    (hr : ∀ d, rest.head? = some d → q d = false) :
    (ds ++ rest).takeWhile q = ds ∧ (ds ++ rest).dropWhile q = rest := by
  have hr' : rest.takeWhile q = [] ∧ rest.dropWhile q = rest := by
    cases rest with
    | nil => exact ⟨rfl, rfl⟩
    | cons d rest => simp [hr d rfl]
  rw [List.takeWhile_append_of_pos h, List.dropWhile_append_of_pos h, hr'.1, hr'.2, List.append_nil]
  exact ⟨rfl, rfl⟩

lemma fraction_append (hf : Fraction f fs)
    (hr : ∀ d, rest.head? = some d → d.isDigit = false ∧ d ≠ '.') :
    fraction (f ++ rest) = (f, rest) := by
  cases hf with
  | none =>
    cases rest with
    | nil => rfl
    | cons d rest =>
      have hd := (hr d rfl).2
      simp [fraction, hd]
  | some h =>
    obtain ⟨ht, hd⟩ := span_append h fun d hd => (hr d hd).1
    rw [List.cons_append, fraction, ht, hd]

lemma exponent_digits {c : Char} {s cs ds : List Char} (hc : c = 'e' ∨ c = 'E')
    (hs : sign cs = (s, ds ++ rest)) (h : Digits ds) (hne : ds ≠ [])
    (hr : ∀ d, rest.head? = some d → d.isDigit = false) :
    exponent (c :: cs) = (c :: s ++ ds, rest) := by
  obtain ⟨ht, hd⟩ := span_append h hr
  have hc' : (decide (c = 'e') || decide (c = 'E')) = true := by simpa using hc
  have hne' : ds.isEmpty = false := by simpa using hne
  rw [exponent, hs]
  simp only [ht, hd, hc', hne', Bool.not_false, Bool.and_self, if_true]

lemma sign_of_isDigit {c : Char} {cs : List Char} (h : c.isDigit) :
    sign (c :: cs) = ([], c :: cs) := by
  have := toNat_of_isDigit h
  rw [sign]
  · rintro _ ⟨⟩
    simp at this
  · rintro _ ⟨⟩
    simp at this

lemma exponent_append (hp : Power p k) (hr : ∀ d, rest.head? = some d → EndsNumber d) :
    exponent (p ++ rest) = (p, rest) := by
  have hnd : ∀ d, rest.head? = some d → d.isDigit = false := fun d hd => (hr d hd).isDigit
  cases hp with
  | none =>
    cases rest with
    | nil => rfl
    | cons d rest =>
      obtain ⟨he, hE⟩ := (hr d rfl).exponent
      simp [exponent, he, hE]
  | @plain c ds hc h hne =>
    refine exponent_digits (s := []) hc ?_ h hne hnd
    cases ds with
    | nil => contradiction
    | cons d ds => exact sign_of_isDigit h.head
  | @plus c ds hc h hne =>
    have hs : sign ('+' :: (ds ++ rest)) = (['+'], ds ++ rest) := rfl
    exact exponent_digits hc hs h hne hnd
  | @minus c ds hc h hne =>
    have hs : sign ('-' :: (ds ++ rest)) = (['-'], ds ++ rest) := rfl
    exact exponent_digits hc hs h hne hnd

lemma head_power (hp : Power p k) (hr : ∀ d, rest.head? = some d → EndsNumber d) :
    ∀ d, (p ++ rest).head? = some d → d.isDigit = false ∧ d ≠ '.' := by
  have key : ∀ {c : Char} {cs : List Char}, c = 'e' ∨ c = 'E' →
      ∀ d, (c :: cs).head? = some d → d.isDigit = false ∧ d ≠ '.' := by
    rintro c cs (rfl | rfl) _ ⟨⟩ <;> decide
  cases hp with
  | none => exact fun d hd => ⟨(hr d hd).isDigit, (hr d hd).point⟩
  | plain hc => exact key hc
  | plus hc => exact key hc
  | minus hc => exact key hc

lemma number_append {c : Char} (hw : Digits ws) (hf : Fraction f fs) (hp : Power p k)
    (hr : ∀ d, rest.head? = some d → EndsNumber d) :
    number c (ws ++ (f ++ (p ++ rest))) =
      .ok ⟨if f.isEmpty && p.isEmpty && fits (c :: ws) then .int else .float,
        String.ofList (c :: ws ++ f ++ p), (ws ++ f ++ p).length⟩ := by
  have hhead : ∀ d, (f ++ (p ++ rest)).head? = some d → d.isDigit = false := by
    cases hf with
    | none => exact fun d hd => (head_power hp hr d hd).1
    | some h =>
      rintro d ⟨⟩
      rfl
  obtain ⟨ht, hd⟩ := span_append hw hhead
  rw [number, ht, hd, fraction_append hf (head_power hp hr)]
  simp only
  rw [exponent_append hp hr]
  cases rest with
  | nil => rfl
  | cons d rest =>
    obtain ⟨h₁, h₂, h₃⟩ := hr d rfl
    obtain ⟨h₄, h₅⟩ := (hr d rfl).exponent
    simp only [h₁, h₂, h₃, h₄, h₅, if_false, decide_false, Bool.or_self, Bool.false_eq_true]
    rfl

/-! ### What was cut off -/

lemma fraction_spec (cs : List Char) :
    cs = (fraction cs).1 ++ (fraction cs).2 ∧ ∃ fs, Fraction (fraction cs).1 fs := by
  unfold fraction
  split
  · next cs => exact ⟨by simp, _, .some fun _ hc => List.mem_takeWhile_imp hc⟩
  · exact ⟨rfl, [], .none⟩

lemma sign_spec (cs : List Char) :
    cs = (sign cs).1 ++ (sign cs).2 ∧
      ((sign cs).1 = [] ∨ (sign cs).1 = ['+'] ∨ (sign cs).1 = ['-']) := by
  unfold sign
  split <;> simp

lemma exponent_spec (cs : List Char) :
    cs = (exponent cs).1 ++ (exponent cs).2 ∧ ∃ k, Power (exponent cs).1 k := by
  cases cs with
  | nil => exact ⟨rfl, 0, .none⟩
  | cons c cs =>
    obtain ⟨hcs, hs⟩ := sign_spec cs
    unfold exponent
    simp only
    split
    · next h =>
      simp only [Bool.and_eq_true, Bool.or_eq_true, decide_eq_true_eq, Bool.not_eq_true',
        List.isEmpty_eq_false_iff] at h
      obtain ⟨hc, hne⟩ := h
      have hds : Digits ((sign cs).2.takeWhile Char.isDigit) :=
        fun _ hd => List.mem_takeWhile_imp hd
      refine ⟨?_, ?_⟩
      · rw [List.cons_append, List.cons_append, List.append_assoc, List.takeWhile_append_dropWhile,
          ← hcs]
      rcases hs with hs | hs | hs <;> rw [hs]
      · exact ⟨_, .plain hc hds hne⟩
      · exact ⟨_, .plus hc hds hne⟩
      · exact ⟨_, .minus hc hds hne⟩
    · exact ⟨rfl, 0, .none⟩

/-- A number is cut off the text where it ends. -/
lemma number_cut {c : Char} {cs : List Char} {l : Lexeme} (h : number c cs = .ok l) :
    ∃ ws f fs p k rest, cs = ws ++ (f ++ (p ++ rest)) ∧ Digits ws ∧ Fraction f fs ∧ Power p k ∧
      (∀ d, rest.head? = some d → EndsNumber d) ∧
      l = ⟨if f.isEmpty && p.isEmpty && fits (c :: ws) then .int else .float,
        String.ofList (c :: ws ++ f ++ p), (ws ++ f ++ p).length⟩ := by
  obtain ⟨hcut, fs, hf⟩ := fraction_spec (cs.dropWhile Char.isDigit)
  obtain ⟨hcut', k, hp⟩ := exponent_spec (fraction (cs.dropWhile Char.isDigit)).2
  refine ⟨cs.takeWhile Char.isDigit, _, fs, _, k,
    (exponent (fraction (cs.dropWhile Char.isDigit)).2).2, ?_,
    fun _ hd => List.mem_takeWhile_imp hd, hf, hp, ?_⟩
  · rw [← hcut', ← hcut, List.takeWhile_append_dropWhile]
  unfold number at h
  simp only at h
  generalize (exponent (fraction (cs.dropWhile Char.isDigit)).2).2 = rest at h ⊢
  cases rest with
  | nil =>
    refine ⟨?_, (Except.ok.inj h).symm⟩
    rintro _ ⟨⟩
  | cons d rest =>
    simp only at h
    split at h
    · cases h
    split at h
    · cases h
    split at h
    · cases h
    next hd _ hn =>
    simp only [Bool.or_eq_true, decide_eq_true_eq, not_or, Bool.not_eq_true] at hn
    refine ⟨?_, (Except.ok.inj h).symm⟩
    rintro _ ⟨⟩
    exact ⟨hn.1, hn.2, hd⟩

/-- The text of a number is one of a number, and that of an integer has only digits that fit. -/
theorem number_spec {c : Char} {cs : List Char} {l : Lexeme} (hc : c.isDigit)
    (h : number c cs = .ok l) :
    ∃ ws f fs p k, Digits ws ∧ ws ≠ [] ∧ Fraction f fs ∧ Power p k ∧
      l.text = String.ofList (ws ++ f ++ p) ∧
      (l.kind = .float ∨ l.kind = .int ∧ f = [] ∧ p = [] ∧ fits ws) := by
  obtain ⟨ws, f, fs, p, k, rest, -, hw, hf, hp, -, rfl⟩ := number_cut h
  refine ⟨c :: ws, f, fs, p, k, .cons hc hw, by simp, hf, hp, rfl, ?_⟩
  simp only
  split
  · next hint =>
    simp only [Bool.and_eq_true, List.isEmpty_iff] at hint
    exact .inr ⟨rfl, hint.1.1, hint.1.2, hint.2⟩
  · exact .inl rfl

end

end Reckon.Token
