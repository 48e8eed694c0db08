import Reckon.Proofs.Token.Fronts
import Reckon.Tree.Build

/-!
Literals in a source. A string that was printed is read back wherever it stands, whatever follows:
the scan goes on right behind its closing quote. A number is an integer exactly if it has only
digits and they denote one in range, which their count and their order as texts decide; every other
number is a float with a text that reads as one.
-/

namespace Reckon

/-! ### Strings -/

/-- The text with `w` in the place of every `c`. -/
def Text.substitute (c : Char) (w cs : List Char) : List Char :=
  cs.flatMap fun d => if d = c then w else [d]

open Text

/-- A string is printed with a backslash before every backslash and then before every quote. -/
lemma Value.encode_eq_substitute (cs : List Char) :
    encode cs = substitute '"' ['\\', '"'] (substitute '\\' ['\\', '\\'] cs) := by
  induction cs with
  | nil => rfl
  | cons c cs ih =>
    have hsplit : substitute '"' ['\\', '"'] (substitute '\\' ['\\', '\\'] (c :: cs)) =
        substitute '"' ['\\', '"'] (if c = '\\' then ['\\', '\\'] else [c]) ++
          substitute '"' ['\\', '"'] (substitute '\\' ['\\', '\\'] cs) := List.flatMap_append
    rw [hsplit, ← ih, encode]
    by_cases hb : c = '\\'
    · simp [hb, substitute]
    by_cases hq : c = '"'
    · simp [hq, substitute]
    · simp [hb, hq, substitute]

namespace Token

/-- **A printed string is read back in any context.** Its printed form stands between quotes, with
a backslash before every backslash and then before every quote. Behind any text and before any
other it is one lexeme with the string as its text, and a scan that comes to it goes on right
behind its closing quote. -/
theorem printed_string_read (before x behind : String) (after : Bool) :
    let printed := (Value.string x).text
    let source := (before ++ printed ++ behind).toList
    let start := before.length
    let stop := start + printed.length
    printed.toList = '"' ::
      (substitute '"' ['\\', '"'] (substitute '\\' ['\\', '\\'] x.toList) ++ ['"']) ∧
    source[start]? = some '"' ∧
    lexeme after '"' (source.drop (start + 1)) = .ok ⟨.string, x, printed.length - 1⟩ ∧
    source.drop stop = behind.toList ∧
    read after start (source.drop start) =
      (read true stop behind.toList).map (⟨.string, x, start⟩ :: ·) := by
  intro printed source start stop
  have hprinted : printed.toList = '"' :: (Value.encode x.toList ++ ['"']) := toList_quote x
  have hlength : printed.length = (Value.encode x.toList).length + 2 := by
    rw [← String.length_toList, hprinted, List.length_cons, List.length_append,
      List.length_singleton]
  have hdrop : source.drop start = '"' :: (Value.encode x.toList ++ '"' :: behind.toList) := by
    simp [source, start, hprinted, ← String.length_toList]
  have hdrop' : source.drop (start + 1) = Value.encode x.toList ++ '"' :: behind.toList := by
    rw [← List.drop_drop, hdrop, List.drop_one, List.tail_cons]
  have hlexeme : lexeme after '"' (Value.encode x.toList ++ '"' :: behind.toList) =
      .ok ⟨.string, x, 1 + (Value.encode x.toList).length⟩ := lexeme_quote x
  have hstop : stop = start + 1 + (1 + (Value.encode x.toList).length) := by omega
  refine ⟨?_, ?_, ?_, ?_, ?_⟩
  · rw [hprinted, Value.encode_eq_substitute]
  · rw [← List.head?_drop, hdrop, List.head?_cons]
  · rw [hdrop', hlexeme, hlength, Nat.add_comm 1]
    rfl
  · rw [hstop, ← List.drop_drop, hdrop', drop_quote]
  · rw [hdrop, read_lexeme rfl hlexeme, drop_quote, hstop]
    rfl

/-! ### Numbers -/

/-- What the text of a number says: whether it is an integer or a float, and of which value. -/
structure IsNumber (kind : Kind) (text : String) : Prop where
  shape : ∃ ws f fs p k, text.toList = ws ++ f ++ p ∧ Digits ws ∧ ws ≠ [] ∧ Decimal.Fraction f fs ∧
    Decimal.Power p k ∧
    Decimal.read? text = some (Decimal.toFloat ⟨numeral (ws ++ fs), k - fs.length⟩)
  int_iff : kind = .int ↔ Digits text.toList ∧ numeral text.toList ≤ 2 ^ 63 - 1
  float_iff : kind = .float ↔ ¬ (Digits text.toList ∧ numeral text.toList ≤ 2 ^ 63 - 1)
  int : kind = .int → InRange (numeral text.toList) ∧ ∀ pos, Builder.literal? ⟨kind, text, pos⟩ =
    some (if maxDigits < text.length then .error (.digits text.length)
      else .ok (.int (numeral text.toList)))
  float : kind = .float → ∃ x, Decimal.read? text = some x ∧
    ∀ pos, Builder.literal? ⟨kind, text, pos⟩ = some (.ok (.float x))

section

variable {after : Bool} {c : Char} {cs ds ws f fs p : List Char} {k : Int} {l : Lexeme}

lemma fits_iff_le (h : Digits ds) : fits ds = true ↔ numeral ds ≤ 2 ^ 63 - 1 :=
  fits_iff h

/-- A point or an exponent is no digit. -/
lemma digits_shape (hw : Digits ws) (hf : Decimal.Fraction f fs) (hp : Decimal.Power p k) :
    Digits (ws ++ f ++ p) ↔ f = [] ∧ p = [] := by
  constructor
  · intro h
    have hf' : Digits f := fun d hd => h d (by simp [hd])
    have hp' : Digits p := fun d hd => h d (by simp [hd])
    have letter : ∀ {d : Char} {ds : List Char}, d = 'e' ∨ d = 'E' → ¬ Digits (d :: ds) := by
      rintro d ds (rfl | rfl) h <;> cases h.head
    refine ⟨?_, ?_⟩
    · cases hf with
      | none => rfl
      | some => cases hf'.head
    · cases hp with
      | none => rfl
      | plain hc => exact absurd hp' (letter hc)
      | plus hc => exact absurd hp' (letter hc)
      | minus hc => exact absurd hp' (letter hc)
  · rintro ⟨rfl, rfl⟩
    rwa [List.append_nil, List.append_nil]

lemma inRange_numeral (h : numeral ds ≤ 2 ^ 63 - 1) : InRange (numeral ds) :=
  ⟨by rw [least]; omega, by rw [greatest]; omega⟩

/-- Digits in range are the literal of their number, unless there are too many. -/
lemma literal_digits (h : Digits ds) (hne : ds ≠ []) (hle : numeral ds ≤ 2 ^ 63 - 1) (pos : Nat) :
    Builder.literal? ⟨.int, String.ofList ds, pos⟩ =
      some (if maxDigits < ds.length then .error (.digits ds.length)
        else .ok (.int (numeral ds))) := by
  by_cases hlong : maxDigits < ds.length
  · simp only [Builder.literal?, readInt_digits h hne, if_pos hlong]
  · simp only [Builder.literal?, readInt_digits h hne, if_neg hlong, if_pos (inRange_numeral hle)]

/-- A text of digits in range has one token before its end. -/
lemma scan_digits (h : Digits ds) (hne : ds ≠ []) (hle : numeral ds ≤ 2 ^ 63 - 1) :
    scan (String.ofList ds) = .ok [⟨.int, String.ofList ds, 0⟩, ⟨.stop, "", ds.length⟩] := by
  rcases ds with _ | ⟨c, ds⟩
  · contradiction
  have hl : lexeme false c ds = .ok ⟨.int, String.ofList (c :: ds), ds.length⟩ := by
    have hnumber : number c (ds ++ ([] ++ ([] ++ []))) = _ := number_append h.tail .none .none nofun
    rw [lexeme_of_isDigit h.head]
    simpa [(fits_iff_le h).2 hle] using hnumber
  rw [scan, String.toList_ofList, read_lexeme (gap_of_graphic (graphic_of_isDigit h.head)) hl,
    List.drop_length, read, Nat.zero_add, Nat.add_comm 1]
  rfl

lemma isNumber_int (h : Digits ds) (hne : ds ≠ []) (hle : numeral ds ≤ 2 ^ 63 - 1) :
    IsNumber .int (String.ofList ds) := by
  have hshape : ds ++ [] ++ [] = ds := by rw [List.append_nil, List.append_nil]
  have hread := Decimal.read?_shape h hne .none .none
  rw [hshape] at hread
  refine ⟨⟨ds, [], [], [], 0, ?_, h, hne, .none, .none, hread⟩, ?_, ?_,
    fun _ => ⟨?_, fun pos => ?_⟩, nofun⟩ <;>
    rw [String.toList_ofList]
  · exact hshape.symm
  · exact iff_of_true rfl ⟨h, hle⟩
  · exact iff_of_false nofun (not_not_intro ⟨h, hle⟩)
  · exact inRange_numeral hle
  · rw [String.length_ofList]
    exact literal_digits h hne hle pos

lemma isNumber_float (hw : Digits ws) (hne : ws ≠ []) (hf : Decimal.Fraction f fs)
    (hp : Decimal.Power p k)
    (hout : ¬ (Digits (ws ++ f ++ p) ∧ numeral (ws ++ f ++ p) ≤ 2 ^ 63 - 1)) :
    IsNumber .float (String.ofList (ws ++ f ++ p)) := by
  have hread := Decimal.read?_shape hw hne hf hp
  have htext := String.toList_ofList (l := ws ++ f ++ p)
  refine ⟨⟨ws, f, fs, p, k, htext, hw, hne, hf, hp, hread⟩, ?_, ?_, nofun,
    fun _ => ⟨_, hread, fun pos => ?_⟩⟩
  · rw [htext]
    exact iff_of_false nofun hout
  · rw [htext]
    exact iff_of_true rfl hout
  · simp only [Builder.literal?, hread]

/-- A number that is cut off is of the kind that its text says. -/
lemma isNumber_number (hc : c.isDigit) (h : number c cs = .ok l) :
    IsNumber l.kind l.text ∧ l.text.toList <+: c :: cs := by
  obtain ⟨ws, f, fs, p, k, rest, rfl, hw, hf, hp, -, rfl⟩ := number_cut h
  have hds : Digits (c :: ws) := hw.cons hc
  refine ⟨?_, rest, ?_⟩
  · dsimp only
    split
    · next hint =>
      simp only [Bool.and_eq_true, List.isEmpty_iff] at hint
      obtain ⟨⟨rfl, rfl⟩, hfits⟩ := hint
      rw [List.append_nil, List.append_nil]
      exact isNumber_int hds (by simp) ((fits_iff_le hds).1 hfits)
    · next hfloat =>
      refine isNumber_float hds (by simp) hf hp fun ⟨hall, hle⟩ => hfloat ?_
      obtain ⟨rfl, rfl⟩ := (digits_shape hds hf hp).1 hall
      rw [List.append_nil, List.append_nil] at hle
      exact (fits_iff_le hds).2 hle
  · rw [String.toList_ofList, List.append_assoc, List.append_assoc, List.cons_append]

/-- A lexeme is a number exactly if it begins with a digit. -/
lemma number_iff_isDigit (h : lexeme after c cs = .ok l) :
    (l.kind = .int ∨ l.kind = .float) ↔ c.isDigit := by
  constructor
  · intro hk
    cases lexed_lexeme h with
    | string hk' => rw [hk'] at hk; rcases hk with hk | hk <;> cases hk
    | number hc => exact hc
    | word =>
      rcases word_kind c cs with hk' | hk' | hk' <;> rw [hk'] at hk <;> rcases hk with hk | hk <;>
        cases hk
    | pair _ hp => obtain ⟨op, rfl⟩ := pair_kind hp; rcases hk with hk | hk <;> cases hk
    | single _ hs =>
      rcases single_kind hs with ⟨_, rfl⟩ | ⟨_, rfl⟩ | ⟨-, rfl⟩ | rfl | rfl | rfl <;>
        rcases hk with hk | hk <;> cases hk
  · intro hc
    rw [lexeme_of_isDigit hc] at h
    exact (number_kind hc h).symm

lemma isNumber_lexeme (h : lexeme after c cs = .ok l) (hc : c.isDigit) :
    IsNumber l.kind l.text ∧ l.text.toList <+: c :: cs := by
  rw [lexeme_of_isDigit hc] at h
  exact isNumber_number hc h

end

/-- **Numbers are classified by what they denote.** Digits pass the test of the scan exactly if the
number that they denote is at most 2 ^ 63 - 1, whatever their count and however many zeros they
begin with. A lexeme is a number exactly if it begins with a digit, and so is a token of a scan; its
text stands there in the source, and the text decides whether it is an integer, which then is in
range and the literal of that number unless it has more digits than are read, or a float, which then
is read as the float of its digits. -/
theorem numbers_classified (d source : String) (after : Bool) (c : Char) (cs : List Char) :
    (Digits d.toList → (fits d.toList = true ↔ numeral d.toList ≤ 2 ^ 63 - 1)) ∧
    (∀ l, lexeme after c cs = .ok l → ((l.kind = .int ∨ l.kind = .float) ↔ c.isDigit) ∧
      (c.isDigit → IsNumber l.kind l.text ∧ l.text.toList <+: c :: cs)) ∧
    ∀ ts, scan source = .ok ts → ∀ t ∈ ts,
      ((t.kind = .int ∨ t.kind = .float) ↔ ∃ c, source.toList[t.pos]? = some c ∧ c.isDigit) ∧
      (t.kind = .int ∨ t.kind = .float → IsNumber t.kind t.text ∧
        t.text.toList <+: source.toList.drop t.pos) := by
  refine ⟨fits_iff_le, fun l h => ⟨number_iff_isDigit h, isNumber_lexeme h⟩, fun ts h t ht => ?_⟩
  rcases lexeme_of_mem (read_of_scan h) ht with ⟨hk, hpos⟩ |
    ⟨before, c, rest, after, l, hsource, hl, rfl⟩
  · rw [Nat.zero_add] at hpos
    rw [hk, List.getElem?_eq_none hpos]
    simp
  · rw [hsource, Nat.zero_add, List.drop_left, List.getElem?_append_right (Nat.le_refl _),
      Nat.sub_self]
    refine ⟨?_, fun hk => isNumber_lexeme hl ((number_iff_isDigit hl).1 hk)⟩
    simpa using number_iff_isDigit hl

/-- The greatest integer behind zeros, and the next number, which is a float. -/
theorem numbers_classified_greatest :
    let ts : List Token := [⟨.int, "009223372036854775807", 0⟩, ⟨.binary (.arith .sub), "-", 21⟩,
      ⟨.float, "9223372036854775808", 22⟩, ⟨.stop, "", 41⟩]
    fits "009223372036854775807".toList = true ∧ fits "9223372036854775808".toList = false ∧
      lexeme false '1' ".5e3)".toList = .ok ⟨.float, "1.5e3", 4⟩ ∧ IsNumber .float "1.5e3" ∧
      scan "009223372036854775807-9223372036854775808" = .ok ts ∧
      IsNumber .int "009223372036854775807" ∧ IsNumber .float "9223372036854775808" := by
  intro ts
  obtain ⟨hfits, hlexeme, hscan⟩ := numbers_classified "009223372036854775807"
    "009223372036854775807-9223372036854775808" false '1' ".5e3)".toList
  have hl : lexeme false '1' ".5e3)".toList = .ok ⟨.float, "1.5e3", 4⟩ := by decide +kernel
  have hts : scan "009223372036854775807-9223372036854775808" = .ok ts := by
    rw [scan_eq]
    simp only [ts]
    decide +kernel
  have hint : ⟨.int, "009223372036854775807", 0⟩ ∈ ts := List.mem_cons_self
  have hfloat : ⟨.float, "9223372036854775808", 22⟩ ∈ ts :=
    List.mem_cons_of_mem _ (List.mem_cons_of_mem _ List.mem_cons_self)
  refine ⟨(hfits ?_).2 ?_, by decide, hl, ((hlexeme _ hl).2 rfl).1, hts, ?_, ?_⟩
  · exact List.all_eq_true.1 (by decide)
  · decide
  · exact ((hscan _ hts _ hint).2 (.inl rfl)).1
  · exact ((hscan _ hts _ hfloat).2 (.inr rfl)).1

/-- One zero more than the digits that are read: an integer in range, and no literal. -/
theorem numbers_classified_zeros :
    let text := String.ofList (List.replicate (maxDigits + 1) '0')
    scan text = .ok [⟨.int, text, 0⟩, ⟨.stop, "", maxDigits + 1⟩] ∧ InRange (numeral text.toList) ∧
      Builder.literal? ⟨.int, text, 0⟩ = some (.error (.digits (maxDigits + 1))) := by
  intro text
  have hds : Digits (List.replicate (maxDigits + 1) '0') := digits_replicate _
  have hne : List.replicate (maxDigits + 1) '0' ≠ [] := List.cons_ne_nil _ _
  have hle : numeral (List.replicate (maxDigits + 1) '0') ≤ 2 ^ 63 - 1 := by
    rw [numeral_zeroes]
    exact Nat.zero_le _
  have hscan := scan_digits hds hne hle
  have hliteral := literal_digits hds hne hle 0
  rw [List.length_replicate] at hscan hliteral
  refine ⟨hscan, ?_, hliteral.trans (congrArg some (if_pos (Nat.lt_succ_self _)))⟩
  rw [String.toList_ofList]
  exact inRange_numeral hle

end Token

end Reckon
