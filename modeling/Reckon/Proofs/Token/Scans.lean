import Reckon.Proofs.Token.Sound
import Reckon.Value.Text

/-!
Scanning piece by piece. `Scans after cs ms after' cs'` says that a scan of `cs` gives tokens of the
marks `ms`, whatever their offsets, and goes on with `cs'`; pieces of a text one after another scan
to their marks one after another. Every printed word, number, string and operator is scanned to the
mark that it was printed for.
-/

namespace Reckon.Token

/-- Kind and text of a token. -/
abbrev Mark := Kind × String

def mark (t : Token) : Mark :=
  (t.kind, t.text)

def Scans (after : Bool) (cs : List Char) (ms : List Mark) (after' : Bool) (cs' : List Char) :
    Prop :=
  ∀ pos, ∃ w pos', w.map mark = ms ∧ read after pos cs = (read after' pos' cs').map (w ++ ·)

section

variable {a b c : Bool} {cs ds es : List Char} {ms ns : List Mark}

lemma Scans.nil : Scans a cs [] a cs := by
  refine fun pos => ⟨[], pos, rfl, ?_⟩
  cases read a pos cs <;> rfl

lemma Scans.append (h : Scans a cs ms b ds) (k : Scans b ds ns c es) :
    Scans a cs (ms ++ ns) c es := by
  intro pos
  obtain ⟨v, pos', rfl, hv⟩ := h pos
  obtain ⟨w, pos'', rfl, hw⟩ := k pos'
  refine ⟨v ++ w, pos'', List.map_append, ?_⟩
  rw [hv, hw]
  cases read c pos'' es with
  | error e => rfl
  | ok ts => simp [Except.map]

lemma scans_gap {d : Char} (h : gap d) : Scans a (d :: cs) [] a cs := by
  refine fun pos => ⟨[], pos + 1, rfl, ?_⟩
  rw [read, if_pos h]
  cases read a (pos + 1) cs <;> rfl

lemma scans_lexeme {d : Char} {l : Lexeme} (hd : gap d = false) (h : lexeme a d cs = .ok l)
    (hc : cs.drop l.extra = ds) : Scans a (d :: cs) [(l.kind, l.text)] l.kind.endsOperand ds := by
  refine fun pos => ⟨[⟨l.kind, l.text, pos⟩], pos + 1 + l.extra, rfl, ?_⟩
  rw [read, if_neg (by simp [hd]), h, ← hc]
  rfl

end

/-- A text that scans to marks has tokens of these marks and then the end. -/
theorem scan_of_scans {s : String} {ms : List Mark} (h : Scans false s.toList ms true []) :
    ∃ w pos, w.map mark = ms ∧ scan s = .ok (w ++ [⟨.stop, "", pos⟩]) := by
  obtain ⟨w, pos, hw, hread⟩ := h 0
  refine ⟨w, pos, hw, ?_⟩
  rw [Token.read] at hread
  rw [scan, hread]
  rfl

/-! ### Numbers and words -/

section

open Text Decimal

variable {after : Bool} {c : Char} {cs ws f fs p rest : List Char} {k : Int}

lemma lexeme_of_isDigit (h : c.isDigit) : lexeme after c cs = number c cs := by
  have hq : ¬ (c = '"' ∨ c = '\'') := by
    rintro (rfl | rfl) <;> cases h
  simp only [lexeme, Bool.or_eq_true, decide_eq_true_eq, hq, if_false, h, if_true]

lemma gap_of_graphic (h : Graphic c) : gap c = false := by
  have h := h.1
  rw [gap, Bool.or_eq_false_iff, Bool.or_eq_false_iff, Bool.or_eq_false_iff,
    decide_eq_false_iff_not, decide_eq_false_iff_not, decide_eq_false_iff_not,
    decide_eq_false_iff_not]
  refine ⟨⟨⟨?_, ?_⟩, ?_⟩, ?_⟩ <;> rintro rfl <;> revert h <;> decide

lemma scans_number (hw : Digits ws) (hne : ws ≠ []) (hf : Fraction f fs) (hp : Power p k)
    (hr : Clear rest) :
    Scans after (ws ++ f ++ p ++ rest)
      [(if f.isEmpty && p.isEmpty && fits ws then .int else .float, String.ofList (ws ++ f ++ p))]
      true rest := by
  rcases ws with _ | ⟨c, ws⟩
  · contradiction
  have hl : lexeme after c (ws ++ f ++ p ++ rest) =
      .ok ⟨if f.isEmpty && p.isEmpty && fits (c :: ws) then .int else .float,
        String.ofList (c :: ws ++ f ++ p), (ws ++ f ++ p).length⟩ := by
    rw [lexeme_of_isDigit hw.head, List.append_assoc, List.append_assoc]
    exact number_append hw.tail hf hp hr.endsNumber
  have hs := scans_lexeme (gap_of_graphic (graphic_of_isDigit hw.head)) hl List.drop_left
  have hends : (if f.isEmpty && p.isEmpty && fits (c :: ws) then Kind.int else .float).endsOperand =
      true := by
    split <;> rfl
  rw [hends] at hs
  exact hs

lemma graphic_of_letter (h : c.isAlpha ∨ c = '_') :
    Graphic c ∧ c.isDigit = false ∧ c ≠ '"' ∧ c ≠ '\'' := by
  rcases h with h | rfl
  · have hn : 65 ≤ c.toNat ∧ c.toNat ≤ 122 := by
      rcases letter_of_isAlpha h with h | h <;> omega
    have hd : c.isDigit = false := by
      cases hd : c.isDigit with
      | false => rfl
      | true =>
        have := toNat_of_isDigit hd
        omega
    refine ⟨⟨by omega, by omega⟩, hd, ?_, ?_⟩ <;> rintro rfl <;> revert hn <;> decide
  · exact ⟨⟨by decide, by decide⟩, by decide⟩

/-- A run of letters, digits and underscores is one lexeme up to its end. -/
lemma lexeme_word (after : Bool) (h : c.isAlpha ∨ c = '_') (hw : ∀ d ∈ cs, wordChar d)
    (hr : ∀ d, rest.head? = some d → wordChar d = false) :
    gap c = false ∧ lexeme after c (cs ++ rest) = .ok (word c cs) ∧
      (word c cs).extra = cs.length := by
  obtain ⟨hg, hd, hq, hq'⟩ := graphic_of_letter h
  have hrest := span_append hw hr
  have htake : cs.takeWhile wordChar = cs := List.takeWhile_eq_self_iff.2 hw
  have hword : word c (cs ++ rest) = word c cs := by rw [word, word, hrest.1, htake]
  refine ⟨gap_of_graphic hg, ?_, by rw [word, htake]⟩
  have h' : (c.isAlpha || decide (c = '_')) = true := by simpa using h
  simp only [lexeme, hq, hq', hd, h', hword, decide_false, Bool.or_self, Bool.false_eq_true,
    if_false, if_true]

lemma word_ends (c : Char) (cs : List Char) : (word c cs).kind.endsOperand = true := by
  unfold word
  simp only
  split
  · rfl
  · split <;> rfl

lemma scans_word (h : c.isAlpha ∨ c = '_') (hw : ∀ d ∈ cs, wordChar d)
    (hr : ∀ d, rest.head? = some d → wordChar d = false) :
    Scans after (c :: cs ++ rest) [((word c cs).kind, (word c cs).text)] true rest := by
  obtain ⟨hg, hl, hextra⟩ := lexeme_word after h hw hr
  have hs := scans_lexeme hg hl (hextra ▸ List.drop_left)
  rwa [word_ends] at hs

lemma word_of_isName (hw : ∀ d ∈ cs, wordChar d) (ht : String.ofList (c :: cs) ≠ "true")
    (hf : String.ofList (c :: cs) ≠ "false") :
    (word c cs).kind = .name ∧ (word c cs).text = String.ofList (c :: cs) := by
  have htake : cs.takeWhile wordChar = cs := List.takeWhile_eq_self_iff.2 hw
  rw [word, htake]
  simp only [ht, hf, if_false, and_self]

lemma scans_name {s : String} (h : IsName s) (hr : ∀ d, rest.head? = some d → wordChar d = false) :
    Scans after (s.toList ++ rest) [(.name, s)] true rest := by
  obtain ⟨⟨c, cs, rfl, hc, hw⟩, ht, hf⟩ := h
  obtain ⟨hkind, htext⟩ := word_of_isName hw ht hf
  have hs : Scans after _ _ _ rest := scans_word hc hw hr
  rw [hkind, htext] at hs
  rwa [String.toList_ofList]

lemma scans_boolean (b : Bool) (hr : ∀ d, rest.head? = some d → wordChar d = false) :
    Scans after ((if b then "true" else "false").toList ++ rest)
      [if b then (.yes, "true") else (.no, "false")] true rest := by
  cases b with
  | true =>
    have hw : ∀ d ∈ ['r', 'u', 'e'], wordChar d := List.all_eq_true.1 rfl
    exact scans_word (c := 't') (.inl rfl) hw hr
  | false =>
    have hw : ∀ d ∈ ['a', 'l', 's', 'e'], wordChar d := List.all_eq_true.1 rfl
    exact scans_word (c := 'f') (.inl rfl) hw hr

/-! ### Strings -/

lemma contents_cons {q : Char} (h : c ≠ '\\') (n : Nat) (cs : List Char) :
    contents q n (c :: cs) =
      if c = q then .ok ([], n + 1) else (contents q (n + 1) cs).map fun r => (c :: r.1, r.2) := by
  cases cs <;> simp only [contents, if_neg h]

lemma contents_escape {q d e : Char} (h : unescape? d = some e) (n : Nat) (cs : List Char) :
    contents q n ('\\' :: d :: cs) = (contents q (n + 2) cs).map fun r => (e :: r.1, r.2) := by
  rw [contents, if_pos rfl, h]

/-- What stands between two quotes `q` for a text: no quote like them and no backslash, except that
a backslash and the character after it stand for what they escape. -/
inductive Unescapes (q : Char) : (body s : List Char) → Prop
  | nil : Unescapes q [] []
  | plain {c body s} (hc : c ≠ '\\') (hq : c ≠ q) (h : Unescapes q body s) :
      Unescapes q (c :: body) (c :: s)
  | escape {c d body s} (hc : unescape? c = some d) (h : Unescapes q body s) :
    Unescapes q ('\\' :: c :: body) (d :: s)

lemma contents_append {q : Char} {body s : List Char} (hq : q ≠ '\\') (h : Unescapes q body s)
    (n : Nat) (rest : List Char) :
    contents q n (body ++ q :: rest) = .ok (s, n + body.length + 1) := by
  induction h generalizing n with
  | nil => rw [List.nil_append, contents_cons hq, if_pos rfl]; rfl
  | plain hc hne h ih =>
    rw [List.cons_append, contents_cons hc, if_neg hne, ih]
    simp only [Except.map, List.length_cons]
    congr 2
    omega
  | escape hc h ih =>
    rw [List.cons_append, List.cons_append, contents_escape hc, ih]
    simp only [Except.map, List.length_cons]
    congr 2
    omega

/-- A string ends at the first quote that no backslash escapes. -/
lemma contents_cut {q : Char} {n : Nat} {cs : List Char} {r : List Char × Nat}
    (h : contents q n cs = .ok r) :
    ∃ body rest, cs = body ++ q :: rest ∧ Unescapes q body r.1 ∧ r.2 = n + body.length + 1 := by
  induction n, cs using contents.induct q generalizing r with
  | case1 n => cases h
  | case2 n => cases h
  | case3 n d cs hd => simp [contents, hd] at h
  | case4 n d cs e hd ih =>
    rw [contents_escape hd] at h
    obtain ⟨r, hr, rfl⟩ := Action.map_eq_ok h
    obtain ⟨body, rest, rfl, hb, hn⟩ := ih hr
    exact ⟨'\\' :: d :: body, rest, rfl, .escape hd hb, by simp only [hn, List.length_cons]; omega⟩
  | case5 n cs hq =>
    rw [contents_cons hq, if_pos rfl] at h
    obtain rfl := Except.ok.inj h
    exact ⟨[], cs, rfl, .nil, rfl⟩
  | case6 n c cs hc hq ih =>
    rw [contents_cons hc, if_neg hq] at h
    obtain ⟨r, hr, rfl⟩ := Action.map_eq_ok h
    obtain ⟨body, rest, rfl, hb, hn⟩ := ih hr
    exact ⟨c :: body, rest, rfl, .plain hc hq hb, by simp only [hn, List.length_cons]; omega⟩

lemma unescapes_encode (s : List Char) : Unescapes '"' (Value.encode s) s := by
  induction s with
  | nil => exact .nil
  | cons c s ih =>
    unfold Value.encode
    split
    · next h =>
      simp only [Bool.or_eq_true, decide_eq_true_eq] at h
      exact .escape (by rcases h with rfl | rfl <;> rfl) ih
    · next h =>
      simp only [Bool.or_eq_true, decide_eq_true_eq, not_or] at h
      exact .plain h.2 h.1 ih

/-- The content of a string is read as it was. -/
lemma contents_encode (s : List Char) (n : Nat) :
    contents '"' n (Value.encode s ++ '"' :: rest) = .ok (s, n + (Value.encode s).length + 1) :=
  contents_append (by decide) (unescapes_encode s) n rest

lemma toList_quote (s : String) :
    (Value.quote s).toList = '"' :: (Value.encode s.toList ++ ['"']) :=
  String.toList_ofList

lemma lexeme_quote (s : String) : lexeme after '"' (Value.encode s.toList ++ '"' :: rest) =
    .ok ⟨.string, s, 1 + (Value.encode s.toList).length⟩ := by
  simp only [lexeme, decide_true, Bool.true_or, if_true, contents_encode, Except.map,
    String.ofList_toList, Nat.add_sub_cancel]

lemma drop_quote (s : String) :
    (Value.encode s.toList ++ '"' :: rest).drop (1 + (Value.encode s.toList).length) = rest := by
  rw [Nat.add_comm, ← List.drop_drop, List.drop_left, List.drop_one, List.tail_cons]

lemma scans_string (s : String) :
    Scans after ((Value.quote s).toList ++ rest) [(.string, s)] true rest := by
  rw [toList_quote, List.cons_append, List.append_assoc, List.singleton_append]
  exact scans_lexeme rfl (lexeme_quote s) (drop_quote s)

/-! ### Operators and marks -/

/-- The character begins neither a string nor a number nor a word. -/
def isSign (c : Char) : Bool :=
  !(c = '"' || c = '\'' || c.isDigit || c.isAlpha || c = '_' || gap c)

lemma lexeme_of_sign (after : Bool) (h : isSign c) (rest : List Char) :
    gap c = false ∧ lexeme after c rest = match rest.head?.bind (pair? c), single? after c with
    | some kind, _ => .ok ⟨kind, String.ofList (c :: rest.take 1), 1⟩
    | none, some kind => .ok ⟨kind, c.toString, 0⟩
    | none, none => .error (.character c, 0) := by
  simp only [isSign, Bool.not_eq_true', Bool.or_eq_false_iff] at h
  obtain ⟨⟨⟨⟨⟨h₁, h₂⟩, h₃⟩, h₄⟩, h₅⟩, h₆⟩ := h
  refine ⟨h₆, ?_⟩
  have quote : ¬(c = '"' || c = '\'') = true := by simp [h₁, h₂]
  have digit : ¬c.isDigit = true := by simp [h₃]
  have word : ¬(c.isAlpha || c = '_') = true := by simp [h₄, h₅]
  unfold lexeme
  exact (if_neg quote).trans ((if_neg digit).trans (if_neg word))

lemma scans_single {kind : Kind} (hc : isSign c) (hp : rest.head?.bind (pair? c) = none)
    (hs : single? after c = some kind) :
    Scans after (c :: rest) [(kind, c.toString)] kind.endsOperand rest := by
  obtain ⟨hg, hl⟩ := lexeme_of_sign after hc rest
  rw [hp, hs] at hl
  exact scans_lexeme hg hl rfl

lemma scans_pair {kind : Kind} {d : Char} (hc : isSign c) (hp : pair? c d = some kind) :
    Scans after (c :: d :: rest) [(kind, String.ofList [c, d])] kind.endsOperand rest := by
  obtain ⟨hg, hl⟩ := lexeme_of_sign after hc (d :: rest)
  have hp' : (d :: rest).head?.bind (pair? c) = some kind := hp
  rw [hp'] at hl
  exact scans_lexeme hg hl rfl

/-- A character that begins no operator of two characters, whatever follows. -/
lemma pair?_none (h : c ∉ ['=', '!', '<', '>', '&', '|']) (ds : List Char) :
    ds.head?.bind (pair? c) = none := by
  cases ds with
  | nil => rfl
  | cons d ds =>
    change pair? c d = none
    unfold pair?
    split <;> simp at h ⊢

lemma scans_opening : Scans after ('(' :: rest) [(.opening, "(")] false rest :=
  scans_single rfl (pair?_none (by decide) rest) rfl

lemma scans_closing : Scans after (')' :: rest) [(.closing, ")")] true rest :=
  scans_single rfl (pair?_none (by decide) rest) rfl

lemma scans_comma : Scans after (',' :: rest) [(.comma, ",")] false rest :=
  scans_single rfl (pair?_none (by decide) rest) rfl

lemma scans_unary (op : Unary) (hr : rest.head? ≠ some '=') :
    Scans false (op.symbol.toList ++ rest) [(.unary op, op.symbol)] false rest := by
  cases op with
  | neg => exact scans_single rfl (pair?_none (by decide) rest) rfl
  | pos => exact scans_single rfl (pair?_none (by decide) rest) rfl
  | not =>
    refine scans_single rfl ?_ rfl
    cases rest with
    | nil => rfl
    | cons d rest =>
      have hd : d ≠ '=' := fun h => hr (by rw [h]; rfl)
      change pair? '!' d = none
      unfold pair?
      split <;> simp_all

lemma scans_binary (op : Binary) :
    Scans true (op.symbol.toList ++ ' ' :: rest) [(.binary op, op.symbol)] false (' ' :: rest) := by
  rcases op with a | _ | _ | o | _ | _
  · cases a <;> exact scans_single rfl (pair?_none (by decide) _) rfl
  · exact scans_pair rfl rfl
  · exact scans_pair rfl rfl
  · cases o with
    | lt => exact scans_single rfl rfl rfl
    | le => exact scans_pair rfl rfl
    | gt => exact scans_single rfl rfl rfl
    | ge => exact scans_pair rfl rfl
  · exact scans_pair rfl rfl
  · exact scans_pair rfl rfl

end

end Reckon.Token
