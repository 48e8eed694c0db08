import Reckon.Proofs.Token.Tiling
import Reckon.Proofs.Tree.Moved
import Reckon.Proofs.Tree.Sources

/-!
Blanks between tokens. Blanks that are inserted anywhere but inside a lexeme change no token of a
source but its offset: every lexeme is still cut off where it was, in front of a blank as well as in
front of what followed it before. So the source has the same tree, and if it is refused, then for
the same cause at the same token.
-/

namespace Reckon

namespace Token

/-- The offset lies between two characters of the token's lexeme. -/
def Inside (source : String) (t : Token) (i : Nat) : Prop :=
  ∃ ds, IsLexeme t ds ∧ Stands 0 source.toList t ds ∧ t.pos < i ∧ i < t.pos + ds.length

/-- Only blanks are inserted, and none of them inside a lexeme; `ins i` goes in front of the
character at offset `i`, or at the end. -/
structure Loosens (ins : Nat → List Char) (source : String) (ts : List Token) : Prop where
  blank : ∀ i, ∀ c ∈ ins i, gap c
  outside : ∀ t ∈ ts, ∀ i, Inside source t i → ins i = []

/-- The text that begins at offset `i`, with what is inserted. -/
def loosened (ins : Nat → List Char) : (i : Nat) → List Char → List Char
  | i, [] => ins i
  | i, c :: cs => ins i ++ c :: loosened ins (i + 1) cs

/-- How many characters are inserted before offset `i`, without those right in front of
the character there. -/
def inserted (ins : Nat → List Char) : (i : Nat) → Nat
  | 0 => 0
  | i + 1 => inserted ins i + (ins i).length

/-- The token with its offset moved by the characters that are inserted before it. -/
def shifted (ins : Nat → List Char) (t : Token) : Token :=
  { t with pos := t.pos + inserted ins (t.pos + 1) }

section

variable {ins : Nat → List Char} {body rest : List Char} {i : Nat}

lemma loosened_append (h : ∀ j, i ≤ j → j < i + body.length → ins j = []) :
    loosened ins i (body ++ rest) = body ++ loosened ins (i + body.length) rest := by
  induction body generalizing i with
  | nil => rfl
  | cons c body ih =>
    have hi : ins i = [] := h i (Nat.le_refl i) (by simp)
    rw [List.cons_append, loosened, hi, List.nil_append, ih fun j hj hj' => h j (by omega) ?_]
    · rw [List.length_cons, Nat.add_assoc, Nat.add_comm 1, List.cons_append]
    · rw [List.length_cons]
      omega

lemma inserted_add {n : Nat} (h : ∀ j, i ≤ j → j < i + n → ins j = []) :
    inserted ins (i + n) = inserted ins i := by
  induction n with
  | zero => rfl
  | succ n ih =>
    have hlast : ins (i + n) = [] := h _ (by omega) (by omega)
    rw [← Nat.add_assoc, inserted, hlast, ih fun j hj hj' => h j hj (by omega)]
    rfl

/-- The text still begins as it did, or with a blank. -/
lemma head_loosened (hblank : ∀ i, ∀ c ∈ ins i, gap c) {d : Char}
    (h : (loosened ins i rest).head? = some d) : gap d ∨ rest.head? = some d := by
  have hins : ∀ es, (ins i ++ es).head? = some d → gap d ∨ es.head? = some d := by
    intro es hes
    cases hi : ins i with
    | nil => rw [hi] at hes; exact .inr hes
    | cons c cs =>
      rw [hi] at hes
      cases hes
      exact .inl (hblank i d (by simp [hi]))
  cases rest with
  | nil =>
    rw [loosened, ← List.append_nil (ins i)] at h
    exact hins [] h
  | cons c cs =>
    rw [loosened] at h
    exact (hins _ h).imp_right fun h => h

end

lemma read_loosened {ins : Nat → List Char} (hblank : ∀ i, ∀ c ∈ ins i, gap c) {after : Bool}
    {pos : Nat} {cs : List Char} {ts : List Token} (h : read after pos cs = .ok ts)
    (hout : ∀ t ∈ ts, ∀ ds, IsLexeme t ds → Stands pos cs t ds → ∀ i, t.pos < i →
    i < t.pos + ds.length → ins i = []) :
    read after (pos + inserted ins pos) (loosened ins pos cs) = .ok (ts.map (shifted ins)) := by
  replace h := scanned_read h
  induction h with
  | @stop after pos =>
    have hgaps : read after (pos + inserted ins pos) (ins pos ++ []) = _ := read_gaps (hblank pos)
    rw [List.append_nil, read] at hgaps
    rw [loosened, hgaps, Nat.add_assoc]
    rfl
  | @blank _ pos c _ _ hg _ ih =>
    have hrest := ih fun t ht ds hds hstands => hout t ht ds hds (hstands.behind (u := [c]))
    rw [loosened, read_gaps (hblank pos), read, if_pos hg, ← hrest, inserted]
    congr 1
    omega
  | @token after pos c cs l ts hg hl _ ih =>
    obtain ⟨body, rest, hcut⟩ := cut_lexeme hl
    obtain ⟨hhead, htail⟩ := List.forall_mem_cons.1 hout
    have hcons : c :: cs = (c :: body) ++ rest := by rw [hcut.text]; rfl
    -- Nothing is inserted inside the lexeme, so that it is cut off as before.
    have hnone : ∀ j, pos + 1 ≤ j → j < pos + 1 + body.length → ins j = [] := by
      intro j hj hj'
      refine hhead (c :: body) (hcut.lexeme pos) ⟨[], rest, hcons, rfl, hcut.ends⟩ j hj ?_
      rw [List.length_cons]
      dsimp only
      omega
    have hdrop : cs.drop l.extra = rest := by rw [hcut.text, hcut.extra, List.drop_left]
    have hlength : pos + 1 + body.length = pos + (c :: body).length := by
      rw [List.length_cons]
      omega
    rw [hdrop, hcut.extra] at ih
    have hrest := ih fun t ht ds hds hstands => htail t ht ds hds <| by
      rw [hcons]
      exact Stands.behind (hlength ▸ hstands)
    have hagain := hcut.again (loosened ins (pos + 1 + body.length) rest) fun d hd => by
      rcases head_loosened hblank hd with hd | hd
      · exact ends_of_gap _ _ hd
      · exact hcut.ends d hd
    rw [loosened, read_gaps (hblank pos), hcut.text, loosened_append hnone, read_lexeme hg hagain,
      hcut.extra, List.drop_left]
    rw [inserted_add hnone, inserted] at hrest
    have hpos : pos + inserted ins pos + (ins pos).length + 1 + body.length =
        pos + 1 + body.length + (inserted ins pos + (ins pos).length) := by omega
    rw [hpos, hrest, List.map_cons, shifted, inserted, ← Nat.add_assoc]
    rfl

lemma scan_loosened {ins : Nat → List Char} {source : String} {ts : List Token}
    (h : scan source = .ok ts) (hins : Loosens ins source ts) :
    scan (String.ofList (loosened ins 0 source.toList)) = .ok (ts.map (shifted ins)) := by
  have hread := read_loosened hins.blank (read_of_scan h) fun t ht ds hds hstands i hi hi' =>
    hins.outside t ht i ⟨ds, hds, hstands, hi, hi'⟩
  have hstart : inserted ins 0 = 0 := rfl
  rw [hstart] at hread
  rw [scan, String.toList_ofList, hread]

end Token

/-! ### Trees -/

/-- The second error, in another source, is the first one, at the token that the first one lies at
and that may stand elsewhere there; only that an integer has too many digits has no place. -/
structure Error.Shifted (source : String) (ins : Nat → List Char) (ts : List Token) (e e' : Error) :
    Prop where
  label : e'.label = e.label
  message : e'.message = e.message
  pos : (∃ t ∈ ts, e.pos? = some t.pos ∧ e'.place? = some ⟨source, (t.shifted ins).pos⟩) ∨
    ∃ count, e = .fault (.digits count) ∧ e' = e

lemma shifted_refusal {source source' : String} {ins : Nat → List Char} {ts : List Token}
    {r r' : Refusal} (h : (r.error (some source)).OfReading source)
    (hr : r.Matches (fun p q => ∃ t ∈ ts, t.pos = p ∧ (t.shifted ins).pos = q) r') :
    (r.error (some source)).Shifted source' ins ts (r'.error (some source')) := by
  obtain ⟨cause, pos⟩ := r
  obtain ⟨cause', pos'⟩ := r'
  obtain ⟨hcause, t, ht, rfl, rfl⟩ := hr
  obtain rfl : cause' = cause := hcause
  cases cause' with
  | parse f => exact ⟨rfl, rfl, .inl ⟨t, ht, rfl, rfl⟩⟩
  | nesting limit => exact ⟨rfl, rfl, .inl ⟨t, ht, rfl, rfl⟩⟩
  | fault f =>
    rcases h with h | ⟨_, -, t, -, -, -, he⟩
    · exact h.elim
    · exact ⟨rfl, rfl, .inr ⟨_, he, rfl⟩⟩

/-- **Blanks between tokens mean nothing.** Let blanks be inserted into a source that has tokens,
anywhere but inside a lexeme. The new source has the same tokens, moved by what is inserted before
them, and under every limit the same tree, or the same error at the same token. -/
theorem Tree.loosened_reads {source : String} {ts : List Token} {ins : Nat → List Char}
    (h : Token.scan source = .ok ts) (hins : Token.Loosens ins source ts) :
    let source' := String.ofList (Token.loosened ins 0 source.toList)
    Token.scan source' = .ok (ts.map (Token.shifted ins)) ∧
      ∀ limit, (∀ t, ofSource limit source = .ok t → ofSource limit source' = .ok t) ∧
        ∀ e, ofSource limit source = .error e →
          ∃ e', ofSource limit source' = .error e' ∧ e.Shifted source' ins ts e' := by
  intro source'
  have hscan := Token.scan_loosened h hins
  refine ⟨hscan, fun limit => ?_⟩
  have hended : Token.Ended ts := by
    have hended := Token.ended_scan source
    rwa [h] at hended
  have hmatches : List.Forall₂ (Token.Matches fun p q => ∃ t ∈ ts, t.pos = p ∧
      (t.shifted ins).pos = q) ts
      (ts.map (Token.shifted ins)) :=
    List.forall₂_map_right_iff.2 (List.forall₂_same.2 fun t ht => ⟨rfl, rfl, t, ht, rfl, rfl⟩)
  have hsourced := sourced_ofSource limit source
  rw [ofSource_of_scan h] at hsourced ⊢
  rw [ofSource_of_scan hscan]
  rcases build_matches (some source) (some source') limit hmatches hended.stop with ⟨t, ht, ht'⟩ |
    ⟨r, r', hr, he, he'⟩
  · rw [ht, ht']
    exact ⟨fun u hu => hu, nofun⟩
  · rw [he] at hsourced
    rw [he, he']
    refine ⟨nofun, ?_⟩
    rintro _ ⟨⟩
    exact ⟨_, rfl, shifted_refusal hsourced hr⟩

/-- In `"a b"==c` line breaks are inserted before and behind the string, behind the operator and
at the end. -/
theorem Tree.loosened_reads_equation :
    let source := "\"a b\"==c"
    let ts : List Token := [⟨.string, "a b", 0⟩, ⟨.binary .eq, "==", 5⟩, ⟨.name, "c", 7⟩,
      ⟨.stop, "", 8⟩]
    let ins : Nat → List Char := fun i => if i = 0 ∨ 5 ≤ i ∧ i ≠ 6 then ['\n'] else []
    Token.scan source = .ok ts ∧ Token.Loosens ins source ts ∧
      Token.scan "\n\"a b\"\n==\nc\n" = .ok (ts.map (Token.shifted ins)) ∧
      ofSource 0 "\n\"a b\"\n==\nc\n" = ofSource 0 source := by
  intro source ts ins
  have hscan : Token.scan source = .ok ts := by
    rw [Token.scan_eq]
    simp only [source, ts]
    decide +kernel
  have hinside : ∀ t ∈ ts, ∀ i, Token.Inside source t i → i < 5 ∧ 0 < i ∨ i = 6 := by
    rintro t ht i ⟨ds, hds, hstands, hi, hi'⟩
    simp only [ts, List.mem_cons, List.not_mem_nil, or_false] at ht
    rcases ht with rfl | rfl | rfl | rfl
    · have hstring : Token.IsLexeme ⟨.string, "a b", 0⟩ ('"' :: (['a', ' ', 'b'] ++ ['"'])) :=
        .quoted rfl (.inl rfl) (Token.unescapes_encode ['a', ' ', 'b'])
      have hplace : Token.Stands 0 source.toList ⟨.string, "a b", 0⟩
          ('"' :: (['a', ' ', 'b'] ++ ['"'])) :=
        ⟨[], ['=', '=', 'c'], by simp [source], rfl, fun _ _ => trivial⟩
      rw [hstands.unique hplace hds hstring] at hi'
      exact .inl ⟨hi', hi⟩
    all_goals
      cases hds with
      | quoted hk => cases hk
      | exact =>
        simp at hi hi'
        omega
  have hins : Token.Loosens ins source ts := by
    refine ⟨fun i c hc => ?_, fun t ht i hi => if_neg ?_⟩
    · simp only [ins] at hc
      split at hc
      · rw [List.mem_singleton.1 hc]; rfl
      · cases hc
    · have := hinside t ht i hi
      omega
  have htext : String.ofList (Token.loosened ins 0 source.toList) = "\n\"a b\"\n==\nc\n" := by
    simp [source, Token.loosened, ins]
  have hreads := loosened_reads hscan hins
  rw [htext] at hreads
  obtain ⟨t, ht⟩ : ∃ t, ofSource 0 source = .ok t := ⟨_, ofSource_of_scan hscan⟩
  exact ⟨hscan, hins, hreads.1, by rw [ht]; exact (hreads.2 0).1 t ht⟩

end Reckon
