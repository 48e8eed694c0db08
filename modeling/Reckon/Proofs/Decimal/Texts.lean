import Mathlib.Data.List.TakeWhile
import Reckon.Decimal.Layout
import Reckon.Decimal.Reading
import Reckon.Proofs.Decimal.Nearest
import Reckon.Proofs.Text.Digits

/-!
The texts of floats: digits, a point with digits after it, an exponent. Such a text is read as its
digits with its places taken off the exponent, and every layout of a decimal is such a text for the
same number. So what is written for a float is read as the float.
-/

namespace Reckon.Decimal

open Text

/-- A point with digits after it, or nothing; `ds` are the digits. -/
inductive Fraction : (f ds : List Char) → Prop
  | none : Fraction [] []
  | some {ds} (h : Digits ds) : Fraction ('.' :: ds) ds

/-- An exponent with its value, or nothing. -/
inductive Power : (p : List Char) → Int → Prop
  | none : Power [] 0
  | plain {c ds} (hc : c = 'e' ∨ c = 'E') (h : Digits ds) (hne : ds ≠ []) :
      Power (c :: ds) (numeral ds)
  | plus {c ds} (hc : c = 'e' ∨ c = 'E') (h : Digits ds) (hne : ds ≠ []) :
    Power (c :: '+' :: ds) (numeral ds)
  | minus {c ds} (hc : c = 'e' ∨ c = 'E') (h : Digits ds) (hne : ds ≠ []) :
    Power (c :: '-' :: ds) (-numeral ds)

section

variable {ws f fs p : List Char} {k : Int}

lemma graphic_exponent {c : Char} (h : c = 'e' ∨ c = 'E') : Graphic c := by
  rcases h with rfl | rfl <;> exact ⟨by decide, by decide⟩

lemma Fraction.graphic (h : Fraction f fs) : ∀ c ∈ f, Graphic c := by
  cases h with
  | none => simp
  | some h =>
    intro c hc
    rcases List.mem_cons.1 hc with rfl | hc
    · exact ⟨by decide, by decide⟩
    · exact graphic_of_isDigit (h c hc)

lemma Power.graphic (h : Power p k) : ∀ c ∈ p, Graphic c := by
  have key : ∀ {ds : List Char}, Digits ds → ∀ c ∈ ds, Graphic c :=
    fun h c hc => graphic_of_isDigit (h c hc)
  cases h with
  | none => simp
  | plain hc h hne => simpa using ⟨graphic_exponent hc, key h⟩
  | plus hc h hne =>
    have : Graphic '+' := ⟨by decide, by decide⟩
    simpa using ⟨graphic_exponent hc, this, key h⟩
  | minus hc h hne =>
    have : Graphic '-' := ⟨by decide, by decide⟩
    simpa using ⟨graphic_exponent hc, this, key h⟩

lemma halts_point (cs : List Char) : Halts ('.' :: cs) := by
  rintro c ⟨⟩
  decide

lemma Power.halts (h : Power p k) : Halts p := by
  have key : ∀ {c : Char} {cs : List Char}, c = 'e' ∨ c = 'E' → Halts (c :: cs) := by
    rintro c cs (rfl | rfl) _ ⟨⟩ <;> decide
  cases h with
  | none => simp [Halts]
  | plain hc => exact key hc
  | plus hc => exact key hc
  | minus hc => exact key hc

lemma exponent?_digits {c : Char} {cs ds : List Char} {b : Bool} (hc : c = 'e' ∨ c = 'E')
    (hs : signed cs = (b, ds)) (h : Digits ds) (hne : ds ≠ []) :
    exponent? (c :: cs) = some (if b then -(numeral ds : Int) else numeral ds) := by
  have hrun := digitRun_all h false
  have hc' : (decide (c = 'e') || decide (c = 'E')) = true := by simpa using hc
  rw [exponent?, hs]
  simp only [hrun, hc', if_true]
  rcases ds with _ | ⟨d, ds⟩
  · contradiction
  · rw [← ofDigits_map]
    rfl

lemma exponent?_power (h : Power p k) : exponent? p = some k := by
  cases h with
  | none => rfl
  | @plain c ds hc h hne =>
    rcases ds with _ | ⟨d, ds⟩
    · contradiction
    · exact exponent?_digits hc (signed_of_isDigit h.head) h hne
  | plus hc h hne => exact exponent?_digits hc rfl h hne
  | minus hc h hne => exact exponent?_digits hc rfl h hne

lemma ofChars?_shape (hw : Digits ws) (hne : ws ≠ []) (hf : Fraction f fs) (hp : Power p k) :
    ofChars? (ws ++ f ++ p) = some ⟨numeral (ws ++ fs), k - fs.length⟩ := by
  have hempty : (ws.map fun c => c.toNat - 48).isEmpty = false := by simpa using hne
  rw [ofChars?, List.append_assoc]
  cases hf with
  | none =>
    rw [List.nil_append, digitRun_digits hw hp.halts]
    have hpoint : ∀ cs, p ≠ '.' :: cs := by
      rintro cs rfl
      cases hp <;> simp_all
    simp only [exponent?_power hp, hempty, Bool.false_and, Bool.false_eq_true, if_false,
      Option.map_some, List.append_nil, ofDigits_map, List.length_nil]
  | some hf =>
    rw [List.cons_append, digitRun_digits hw (halts_point _)]
    simp only [digitRun_digits hf hp.halts, exponent?_power hp, hempty, Bool.false_and,
      Bool.false_eq_true, if_false, Option.map_some, ← List.map_append, ofDigits_map,
      List.length_map]

lemma toLower_of_isDigit {c : Char} (h : c.isDigit) : c.toLower = c := by
  have := toNat_of_isDigit h
  have hu : ¬ (c.val ≥ 'A'.val ∧ c.val ≤ 'Z'.val) := by
    rintro ⟨hl, -⟩
    have : 65 ≤ c.toNat := hl
    omega
  exact dif_neg hu

lemma named?_of_isDigit {c : Char} {cs : List Char} (h : c.isDigit) : named? (c :: cs) = none := by
  have key : ∀ d ds, d.isDigit = false →
      String.ofList ((c :: cs).map Char.toLower) ≠ String.ofList (d :: ds) := by
    intro d ds hd heq
    have := String.ofList_injective heq
    rw [List.map_cons, toLower_of_isDigit h] at this
    obtain ⟨rfl, -⟩ := List.cons.inj this
    rw [h] at hd
    cases hd
  unfold named?
  split
  · next heq => exact absurd heq (key 'i' ['n', 'f'] rfl)
  · next heq => exact absurd heq (key 'i' ['n', 'f', 'i', 'n', 'i', 't', 'y'] rfl)
  · next heq => exact absurd heq (key 'n' ['a', 'n'] rfl)
  · rfl

lemma read?_shape (hw : Digits ws) (hne : ws ≠ []) (hf : Fraction f fs) (hp : Power p k) :
    read? (String.ofList (ws ++ f ++ p)) = some (toFloat ⟨numeral (ws ++ fs), k - fs.length⟩) := by
  have hg : ∀ c ∈ ws ++ f ++ p, Graphic c := by
    intro c hc
    rcases List.mem_append.1 hc with hc | hc
    · rcases List.mem_append.1 hc with hc | hc
      · exact graphic_of_isDigit (hw c hc)
      · exact hf.graphic c hc
    · exact hp.graphic c hc
  have hchars := ofChars?_shape hw hne hf hp
  rw [read?, String.toList_ofList, strip_graphic hg]
  rcases ws with _ | ⟨c, ws⟩
  · contradiction
  rw [List.append_assoc, List.cons_append] at hchars ⊢
  rw [signed_of_isDigit hw.head]
  simp only [named?_of_isDigit hw.head, hchars, Option.map_some, Bool.false_eq_true, if_false]
  rfl

end

/-! ### Layouts -/

/-- The text consists of digits and a point with digits or an exponent or both, and is
that of `q`. -/
def Writes (cs : List Char) (q : ℚ) : Prop :=
  ∃ ws f fs p k, Digits ws ∧ ws ≠ [] ∧ Fraction f fs ∧ Power p k ∧ (f ≠ [] ∨ p ≠ []) ∧
    cs = ws ++ f ++ p ∧ (numeral (ws ++ fs) * 10 ^ (k - fs.length) : ℚ) = q

section

variable {ds : List Char}

lemma numeral_append_zeroes (n : Nat) : numeral (ds ++ zeroes n) = numeral ds * 10 ^ n := by
  rw [zeroes, numeral_append, numeral_zeroes, List.length_replicate, Nat.add_zero, Nat.mul_comm]

lemma numeral_zeroes_append (n : Nat) : numeral (zeroes n ++ ds) = numeral ds := by
  rw [zeroes, numeral_append, numeral_zeroes, Nat.mul_zero, Nat.zero_add]

lemma ten_pow (e : Int) (n : Nat) : (10 : ℚ) ^ n * 10 ^ e = 10 ^ (n + e) := by
  rw [zpow_add₀ (by norm_num), zpow_natCast]

lemma writes_positional (h : Digits ds) (hne : ds ≠ []) (point : Int) :
    Writes (positional ds point) (numeral ds * 10 ^ (point - ds.length)) := by
  unfold positional
  split
  · next hp =>
    have hz : Digits (zeroes (-point).toNat ++ ds) := (digits_replicate _).append h
    have hnum : numeral (['0'] ++ (zeroes (-point).toNat ++ ds)) = numeral ds := by
      rw [← List.append_assoc]
      exact numeral_zeroes_append (-point).toNat.succ
    refine ⟨['0'], _, _, [], 0, .cons rfl nofun, by simp, .some hz, .none, .inl (by simp), by simp,
      ?_⟩
    rw [hnum]
    congr 2
    simp only [zeroes, List.length_append, List.length_replicate]
    omega
  · next hp =>
    split
    · next hl =>
      refine ⟨ds ++ zeroes (point.toNat - ds.length), ['.', '0'], ['0'], [], 0,
        h.append (digits_replicate _), by simp [hne], .some (.cons rfl nofun), .none,
        .inl (by simp), by simp, ?_⟩
      have hnum : numeral (ds ++ zeroes (point.toNat - ds.length) ++ ['0']) =
          numeral ds * 10 ^ (point.toNat - ds.length + 1) := by
        rw [← numeral_append_zeroes, List.append_assoc, zeroes, zeroes, List.replicate_succ']
      rw [hnum, Nat.cast_mul, Nat.cast_pow, Nat.cast_ofNat, mul_assoc, ten_pow]
      congr 2
      simp only [List.length_singleton]
      omega
    · next hl =>
      have hsplit : ds.take point.toNat ++ ds.drop point.toNat = ds := List.take_append_drop _ _
      refine ⟨ds.take point.toNat, '.' :: ds.drop point.toNat, ds.drop point.toNat, [], 0, ?_, ?_,
        .some ?_, .none, .inl (by simp), by simp, ?_⟩
      · exact fun c hc => h c (List.mem_of_mem_take hc)
      · intro hnil
        rcases List.take_eq_nil_iff.1 hnil with h0 | h0
        · omega
        · exact hne h0
      · exact fun c hc => h c (List.mem_of_mem_drop hc)
      · rw [hsplit]
        congr 2
        rw [List.length_drop]
        omega

lemma power_exponent (width : Nat) (lead : Int) :
    Power ('e' :: (if lead < 0 then '-' else '+') ::
      (zeroes (width - (Nat.toDigits 10 lead.natAbs).length) ++ Nat.toDigits 10 lead.natAbs))
        lead := by
  have hd : Digits (zeroes (width - (Nat.toDigits 10 lead.natAbs).length) ++
      Nat.toDigits 10 lead.natAbs) :=
    (digits_replicate _).append (digits_toDigits _)
  have hnum : numeral (zeroes (width - (Nat.toDigits 10 lead.natAbs).length) ++
      Nat.toDigits 10 lead.natAbs) = lead.natAbs := by
    rw [numeral_zeroes_append, numeral_toDigits]
  have hne : zeroes (width - (Nat.toDigits 10 lead.natAbs).length) ++ Nat.toDigits 10 lead.natAbs ≠
      [] := by
    simp [Nat.toDigits_ne_nil]
  generalize
    zeroes (width - (Nat.toDigits 10 lead.natAbs).length) ++ Nat.toDigits 10 lead.natAbs = es at *
  split
  · next h =>
    have : lead = -(numeral es : Int) := by omega
    rw [this]
    exact .minus (.inl rfl) hd hne
  · next h =>
    have : lead = (numeral es : Int) := by omega
    rw [this]
    exact .plus (.inl rfl) hd hne

lemma writes_scientific (h : Digits ds) (hne : ds ≠ []) (width : Nat) (lead : Int) :
    Writes (scientific width ds lead) (numeral ds * 10 ^ (lead + 1 - ds.length)) := by
  have hp := power_exponent width lead
  rcases ds with _ | ⟨d, _ | ⟨e, ds⟩⟩
  · contradiction
  · exact ⟨[d], [], [], _, lead, h, hne, .none, hp, .inr (by simp), by simp [scientific], by simp⟩
  · refine ⟨[d], _, e :: ds, _, lead, .cons h.head nofun, by simp, .some h.tail, hp, .inr (by simp),
      by simp [scientific], ?_⟩
    rw [List.singleton_append]
    congr 2
    simp only [List.length_cons]
    omega

lemma significant_zeroes (d : Decimal) :
    ∃ n, Nat.toDigits 10 d.digits = significant d ++ zeroes n := by
  rw [significant]
  generalize Nat.toDigits 10 d.digits = es
  refine ⟨(es.reverse.takeWhile (· = '0')).length, ?_⟩
  have hz : zeroes (es.reverse.takeWhile (· = '0')).length = es.reverse.takeWhile (· = '0') := by
    refine (List.eq_replicate_iff.2 ⟨rfl, fun c hc => ?_⟩).symm
    have := List.mem_takeWhile_imp hc
    simpa using this
  have hrev : (zeroes (es.reverse.takeWhile (· = '0')).length).reverse =
      zeroes (es.reverse.takeWhile (· = '0')).length := List.reverse_replicate
  rw [← hrev, hz, ← List.reverse_append, List.takeWhile_append_dropWhile, List.reverse_reverse]

/-- Whatever the layout, the text of a decimal is one of its number. -/
lemma writes_write (f : Layout) {d : Decimal} (hd : 0 < d.digits) : Writes (f.write d) d.value := by
  obtain ⟨n, hn⟩ := significant_zeroes d
  have hdigits : Digits (significant d) := by
    have := digits_toDigits d.digits
    rw [hn] at this
    exact fun c hc => this c (List.mem_append_left _ hc)
  have hnum : numeral (significant d) * 10 ^ n = d.digits := by
    rw [← numeral_append_zeroes, ← hn, numeral_toDigits]
  have hne : significant d ≠ [] := by
    intro h
    rw [h] at hnum
    simp [numeral] at hnum
    omega
  have hvalue : (numeral (significant d) * 10 ^ ((Nat.toDigits 10 d.digits).length + d.exponent -
      (significant d).length) : ℚ) = d.value := by
    have hl : ((Nat.toDigits 10 d.digits).length : Int) + d.exponent - (significant d).length =
        n + d.exponent := by
      rw [hn, zeroes, List.length_append, List.length_replicate]
      omega
    rw [hl, ← ten_pow, value, ← hnum, ← mul_assoc]
    push_cast
    rfl
  rw [Layout.write]
  split
  · rw [← hvalue]
    exact writes_positional hdigits hne _
  · rw [← hvalue]
    have := writes_scientific hdigits hne f.width
      ((Nat.toDigits 10 d.digits).length + d.exponent - 1)
    rwa [Int.sub_add_cancel] at this

end

/-! ### Floats -/

open Rounding Float.Model.UnpackedFloat

section

variable {x : Float} {cs : List Char} {q : ℚ}

lemma read?_of_writes (h : Writes cs q) :
    read? (String.ofList cs) = some (.ofModel (.pack (nearest .positive q))) := by
  obtain ⟨ws, f, fs, p, k, hw, hne, hf, hp, -, rfl, rfl⟩ := h
  rw [read?_shape hw hne hf hp, toFloat_eq]
  rfl

lemma abs_of_positive (h : Signed .positive x.toModel.unpack) : x.abs = x := by
  have habs : x.toModel.unpack.abs = x.toModel.unpack := by
    rcases hu : x.toModel.unpack with t | _ | t | ⟨t, m, e, hm⟩ <;> rw [hu] at h <;> cases h <;> rfl
  change Float.ofModel (.pack x.toModel.unpack.abs) = x
  rw [habs]
  exact float_eq rfl

lemma write_infinite (h : Signed .positive x.toModel.unpack) (hi : x.isInf = true) :
    write x = "inf" := by
  have hi : x.toModel.unpack.isInf = true := hi
  rw [write]
  rcases hu : x.toModel.unpack with t | _ | t | ⟨t, m, e, hm⟩ <;> rw [hu] at h hi <;> cases h
  · rfl
  · cases hi
  · cases hi

lemma write_nan (h : x.isNaN = true) : write x = "nan" := by
  have h : x.toModel.unpack.isNaN = true := h
  rw [write]
  rcases hu : x.toModel.unpack with t | _ | t | ⟨t, m, e, hm⟩ <;> rw [hu] at h <;>
    first | rfl | cases h

/-- A negative float is written as its opposite behind a minus sign. -/
lemma write_negative (h : Signed .negative x.toModel.unpack) : write x = "-" ++ write (-x) := by
  rw [write, write, float_abs_neg, unpack_neg]
  rcases hu : x.toModel.unpack with t | _ | t | ⟨t, m, e, hm⟩ <;> rw [hu] at h <;> cases h <;>
    exact String.ofList_cons

/-- The text of a float that is neither negative nor infinite is one of its number. -/
lemma write_writes (h : Signed .positive x.toModel.unpack) (hi : x.isInf = false) :
    ∃ q, Writes (write x).toList q ∧ .ofModel (.pack (nearest .positive q)) = x := by
  have habs := abs_of_positive h
  have hi : x.toModel.unpack.isInf = false := hi
  rw [write]
  rcases hu : x.toModel.unpack with t | _ | t | ⟨t, m, e, hm⟩ <;> rw [hu] at h hi <;> cases h
  · cases hi
  · refine ⟨0, ⟨['0'], ['.', '0'], ['0'], [], 0, .cons rfl nofun, by simp, .some (.cons rfl nofun),
      .none, .inl (by simp), String.toList_ofList, ?_⟩, ?_⟩
    · have : numeral (['0'] ++ ['0']) = 0 := numeral_zeroes 2
      rw [this, Nat.cast_zero, zero_mul]
    · rw [nearest_zero]
      exact float_eq hu
  · refine ⟨(shortest x).value, ?_, ?_⟩
    · rw [habs, String.toList_ofList]
      exact writes_write _ (shortest_pos hu)
    · rw [← toFloat_eq, toFloat_shortest hu]

/-- **What is written for a float is read as the float.** -/
theorem read?_write (h : Signed .positive x.toModel.unpack) (hi : x.isInf = false) :
    read? (write x) = some x := by
  obtain ⟨q, hq, hx⟩ := write_writes h hi
  have := read?_of_writes hq
  rwa [String.ofList_toList, hx] at this

end

end Reckon.Decimal
