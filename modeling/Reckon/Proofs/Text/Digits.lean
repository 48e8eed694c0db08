import Mathlib.Algebra.Group.Nat.Defs
import Reckon.Text.Numeral
import Reckon.Token.Lexeme

/-!
Decimal digits and the number that they denote. A run of digits is read as that number, and the test
that looks at digits only finds out whether the number is an integer in range: without leading zeros
a longer run denotes a greater number, and runs of one length are in the order of their numbers.
-/

namespace Reckon.Text

/-- All the characters are decimal digits. -/
def Digits (ds : List Char) : Prop :=
  ∀ c ∈ ds, c.isDigit

/-- The number that decimal digits denote. -/
def numeral (ds : List Char) : Nat :=
  Nat.ofDigitChars 10 ds 0

section

variable {c : Char} {ds es : List Char}

lemma Digits.head (h : Digits (c :: ds)) : c.isDigit :=
  h c List.mem_cons_self

lemma Digits.tail (h : Digits (c :: ds)) : Digits ds :=
  fun d hd => h d (List.mem_cons_of_mem c hd)

lemma Digits.cons (hc : c.isDigit) (h : Digits ds) : Digits (c :: ds) := by
  intro d hd
  rcases List.mem_cons.1 hd with rfl | hd
  · exact hc
  · exact h d hd

lemma Digits.append (h : Digits ds) (h' : Digits es) : Digits (ds ++ es) := by
  intro c hc
  rcases List.mem_append.1 hc with hc | hc
  · exact h c hc
  · exact h' c hc

lemma digits_toDigits (n : Nat) : Digits (Nat.toDigits 10 n) :=
  fun _ hc => Nat.isDigit_of_mem_toDigits (by decide) (by decide) hc

lemma digits_replicate (n : Nat) : Digits (List.replicate n '0') := by
  intro c hc
  rw [List.eq_of_mem_replicate hc]
  rfl

lemma toNat_of_isDigit (h : c.isDigit) : 48 ≤ c.toNat ∧ c.toNat ≤ 57 := by
  rw [Char.isDigit, Bool.and_eq_true, decide_eq_true_eq, decide_eq_true_eq] at h
  exact h

/-! ### The number of digits -/

lemma numeral_cons : numeral (c :: ds) = 10 ^ ds.length * (c.toNat - 48) + numeral ds := by
  rw [numeral, Nat.ofDigitChars_cons, Nat.ofDigitChars_eq_ofDigitChars_zero, Nat.mul_zero,
    Nat.zero_add]
  rfl

lemma numeral_append : numeral (ds ++ es) = 10 ^ es.length * numeral ds + numeral es := by
  rw [numeral, Nat.ofDigitChars_append, Nat.ofDigitChars_eq_ofDigitChars_zero]
  rfl

lemma numeral_zeroes (n : Nat) : numeral (List.replicate n '0') = 0 := by
  rw [numeral, Nat.ofDigitChars_replicate_zero, Nat.mul_zero]

lemma numeral_toDigits (n : Nat) : numeral (Nat.toDigits 10 n) = n :=
  Nat.ofDigitChars_ten_toDigits

lemma numeral_lt (h : Digits ds) : numeral ds < 10 ^ ds.length := by
  induction ds with
  | nil => simp [numeral]
  | cons c ds ih =>
    have hc := toNat_of_isDigit h.head
    have hd := ih h.tail
    have hle : 10 ^ ds.length * (c.toNat - 48) ≤ 10 ^ ds.length * 9 :=
      Nat.mul_le_mul_left _ (by omega)
    rw [numeral_cons, List.length_cons, Nat.pow_succ]
    omega

/-- Digits that do not start with a zero denote a number of their length. -/
lemma le_numeral (hc : c.isDigit) (h0 : c ≠ '0') : 10 ^ ds.length ≤ numeral (c :: ds) := by
  have hn := toNat_of_isDigit hc
  have hne : c.toNat ≠ 48 := fun h => h0 (Char.toNat_inj.1 h)
  have hle : 10 ^ ds.length * 1 ≤ 10 ^ ds.length * (c.toNat - 48) :=
    Nat.mul_le_mul_left _ (by omega)
  rw [numeral_cons]
  omega

lemma numeral_dropZeroes (ds : List Char) : numeral (ds.dropWhile (· = '0')) = numeral ds := by
  induction ds with
  | nil => rfl
  | cons c ds ih =>
    rw [List.dropWhile_cons]
    split
    · next hc =>
      have hc : c = '0' := by simpa using hc
      rw [ih, numeral_cons, hc]
      simp
    · rfl

/-- Runs of one length are in the order of their numbers. -/
lemma lt_iff_numeral_lt (hl : ds.length = es.length) (hd : Digits ds) (he : Digits es) :
    ds < es ↔ numeral ds < numeral es := by
  induction ds generalizing es with
  | nil =>
    obtain rfl : es = [] := List.length_eq_zero_iff.1 hl.symm
    simp
  | cons c ds ih =>
    rcases es with _ | ⟨e, es⟩
    · cases hl
    have hl' : ds.length = es.length := by simpa using hl
    have hcn := toNat_of_isDigit hd.head
    have hen := toNat_of_isDigit he.head
    have hdl := numeral_lt hd.tail
    have hel := numeral_lt he.tail
    rw [List.cons_lt_cons_iff, ih hl' hd.tail he.tail, numeral_cons, numeral_cons, hl']
    rw [hl'] at hdl
    rcases Nat.lt_trichotomy c.toNat e.toNat with hlt | heq | hgt
    · have hmul : 10 ^ es.length * (c.toNat - 48 + 1) ≤ 10 ^ es.length * (e.toNat - 48) :=
        Nat.mul_le_mul_left _ (by omega)
      rw [Nat.mul_add] at hmul
      have : c < e := hlt
      simp only [this, true_or, true_iff]
      omega
    · obtain rfl := Char.toNat_inj.1 heq
      simp
    · have hmul : 10 ^ es.length * (e.toNat - 48 + 1) ≤ 10 ^ es.length * (c.toNat - 48) :=
        Nat.mul_le_mul_left _ (by omega)
      rw [Nat.mul_add] at hmul
      have h₁ : ¬ c < e := Nat.lt_asymm hgt
      have h₂ : c ≠ e := fun h => by simp [h] at hgt
      simp only [h₁, h₂, false_and, or_false, false_iff]
      omega

end

/-! ### Reading -/

/-- What follows a run of digits ends it. -/
def Halts (rest : List Char) : Prop :=
  ∀ c, rest.head? = some c → digit? c = none ∧ c ≠ '_'

lemma digit?_of_isDigit {c : Char} (h : c.isDigit) : digit? c = some (c.toNat - 48) := by
  have hc := toNat_of_isDigit h
  have hf : (48 ≤ c.toNat ∧ c.toNat ≤ 48 + 9) := by omega
  rw [digit?, zeros, List.find?_cons_of_pos (by simpa using hf)]
  rfl

lemma digitRun_halts {b : Bool} {rest : List Char} (h : Halts rest) :
    digitRun b rest = ([], rest) := by
  cases rest with
  | nil => rfl
  | cons c rest =>
    obtain ⟨hc, hu⟩ := h c rfl
    simp [digitRun, hc, hu]

lemma digitRun_digits {ds rest : List Char} (h : Digits ds) (hr : Halts rest) (b : Bool) :
    digitRun b (ds ++ rest) = (ds.map fun c => c.toNat - 48, rest) := by
  induction ds generalizing b with
  | nil => exact digitRun_halts hr
  | cons c ds ih =>
    rw [List.cons_append, digitRun, digit?_of_isDigit h.head]
    simp [ih h.tail true]

lemma digitRun_all {ds : List Char} (h : Digits ds) (b : Bool) :
    digitRun b ds = (ds.map fun c => c.toNat - 48, []) := by
  have hnil : Halts [] := nofun
  have hrun := digitRun_digits h hnil b
  rwa [List.append_nil] at hrun

lemma ofDigits_map (ds : List Char) : ofDigits (ds.map fun c => c.toNat - 48) = numeral ds := by
  rw [ofDigits, List.foldl_map, numeral, Nat.ofDigitChars_eq_foldl]
  rfl

/-- The character is printed and no blank: a letter, a digit or a mark of the basic alphabet. -/
def Graphic (c : Char) : Prop :=
  0x20 < c.toNat ∧ c.toNat < 0x7F

lemma margin_of_graphic {c : Char} (h : Graphic c) : margin c = false := by
  obtain ⟨h₁, h₂⟩ := h
  simp only [margin, blank, Bool.and_eq_false_iff, Bool.or_eq_false_iff, decide_eq_false_iff_not]
  omega

lemma graphic_of_isDigit {c : Char} (h : c.isDigit) : Graphic c := by
  have := toNat_of_isDigit h
  exact ⟨by omega, by omega⟩

lemma dropMargin {cs : List Char} (h : ∀ c ∈ cs, Graphic c) : cs.dropWhile margin = cs := by
  cases cs with
  | nil => rfl
  | cons c cs =>
    have hc : margin c = false := margin_of_graphic (h c List.mem_cons_self)
    simp [hc]

lemma strip_graphic {cs : List Char} (h : ∀ c ∈ cs, Graphic c) : strip cs = cs := by
  rw [strip, dropMargin h, dropMargin (fun c hc => h c (List.mem_reverse.1 hc)),
    List.reverse_reverse]

lemma signed_of_isDigit {c : Char} {cs : List Char} (h : c.isDigit) :
    signed (c :: cs) = (false, c :: cs) := by
  have := toNat_of_isDigit h
  rw [signed]
  · rintro _ ⟨⟩
    simp at this
  · rintro _ ⟨⟩
    simp at this

/-- A text of digits is read as their number, unless there are too many. -/
theorem readInt_digits {ds : List Char} (h : Digits ds) (hne : ds ≠ []) :
    readInt (String.ofList ds) =
      if maxDigits < ds.length then .error (.digits ds.length) else .ok (numeral ds : Int) := by
  rcases ds with _ | ⟨c, ds⟩
  · contradiction
  rw [readInt, String.toList_ofList, strip_graphic fun d hd => graphic_of_isDigit (h d hd),
    signed_of_isDigit h.head]
  simp only [digitRun_all h false, ofDigits_map, List.length_map]
  rfl

/-! ### Integers that are written -/

lemma writable_iff {n : Int} : Writable n ↔ n.natAbs < 10 ^ maxDigits := by
  rw [Writable, Nat.pow_eq]

lemma writable_of_lt {n : Int} {k : Nat} (h : n.natAbs < 10 ^ k) (hk : k ≤ maxDigits) :
    Writable n :=
  writable_iff.2 (Nat.lt_of_lt_of_le h (Nat.pow_le_pow_right (by decide) hk))

lemma not_writable {k : Nat} (hk : maxDigits ≤ k) : ¬ Writable (Int.ofNat (Nat.pow 10 k)) := by
  rw [writable_iff, Nat.pow_eq, Nat.not_lt]
  exact Nat.pow_le_pow_right (by decide) hk

/-- What is written is read again. -/
lemma readInt_toDigits {n : Nat} (h : Writable n) :
    readInt (String.ofList (Nat.toDigits 10 n)) = .ok (n : Int) := by
  have hlength : (Nat.toDigits 10 n).length ≤ maxDigits :=
    (Nat.length_toDigits_le_iff (by decide) (by decide)).2 (writable_iff.1 h)
  rw [readInt_digits (digits_toDigits n) Nat.toDigits_ne_nil, if_neg (Nat.not_lt.2 hlength),
    numeral_toDigits]

end Reckon.Text

namespace Reckon

lemma InRange.writable {n : Int} (h : InRange n) : Text.Writable n := by
  obtain ⟨hl, hg⟩ := h
  simp only [least, greatest] at hl hg
  exact Text.writable_of_lt (k := 19) (by omega) (by decide)

end Reckon

namespace Reckon.Token

open Text

lemma numeral_greatest : numeral greatestDigits = greatest.toNat :=
  numeral_toDigits _

lemma digits_greatest : Digits greatestDigits :=
  digits_toDigits _

lemma length_greatest : greatestDigits.length = 19 := by
  decide

/-- The test of the digits is a test of their number. -/
theorem fits_iff {ds : List Char} (h : Digits ds) :
    fits ds = true ↔ numeral ds ≤ greatest.toNat := by
  rw [← numeral_dropZeroes ds, ← numeral_greatest]
  have hes : Digits (ds.dropWhile (· = '0')) :=
    fun c hc => h c (List.dropWhile_sublist _ |>.subset hc)
  have hhead : ∀ c es, ds.dropWhile (· = '0') = c :: es → c ≠ '0' := by
    intro c es he
    have := List.head?_dropWhile_not (· = '0') ds
    rw [he] at this
    simpa using this
  rw [fits]
  generalize ds.dropWhile (· = '0') = es at *
  have hlt := numeral_lt hes
  rcases Nat.lt_trichotomy es.length greatestDigits.length with hl | hl | hl
  · have hpow : 10 ^ es.length ≤ 10 ^ 18 :=
      Nat.pow_le_pow_right (by decide) (by rw [length_greatest] at hl; omega)
    have : numeral es ≤ numeral greatestDigits := by
      rw [numeral_greatest]
      have : (10 : Nat) ^ 18 ≤ greatest.toNat := by decide
      omega
    simp [hl, this]
  · have := lt_iff_numeral_lt hl.symm digits_greatest hes
    simp [hl, this]
  · rcases es with _ | ⟨c, es⟩
    · cases hl
    have hle : 10 ^ es.length ≤ numeral (c :: es) := le_numeral hes.head (hhead c es rfl)
    have hpow : 10 ^ 19 ≤ 10 ^ es.length :=
      Nat.pow_le_pow_right (by decide) (by rw [length_greatest, List.length_cons] at hl; omega)
    have : ¬ numeral (c :: es) ≤ numeral greatestDigits := by
      rw [numeral_greatest]
      have : greatest.toNat < (10 : Nat) ^ 19 := by decide
      omega
    have h₁ : ¬ (c :: es).length < greatestDigits.length := by omega
    have h₂ : ¬ (c :: es).length = greatestDigits.length := by omega
    rw [decide_eq_false h₁, decide_eq_false h₂]
    simp [this]

end Reckon.Token
