import Reckon.Proofs.Token.Fronts

/-!
Tokens and their places in the text. The characters of a token, its lexeme, are its text, or for a
string what stands between two quotes for its text. A lexeme is cut off where nothing follows that
could go on with it, and it is cut off in the same way in front of anything else like that (`Cut`).
So the lexemes of a scan tile the text: each one stands where its token says, they do not overlap,
and only blanks stand between them.
-/

namespace Reckon.Token

/-- The characters that are written for a token. -/
inductive IsLexeme (t : Token) : List Char → Prop
  | exact (hk : t.kind ≠ .string) : IsLexeme t t.text.toList
  | quoted {q body} (hk : t.kind = .string) (hq : q = '"' ∨ q = '\'')
      (h : Unescapes q body t.text.toList) :
    IsLexeme t (q :: (body ++ [q]))

/-- The character `d` behind a lexeme is none that the lexeme could go on with. -/
def Ends (kind : Kind) (lexeme : List Char) (d : Char) : Prop :=
  match kind with
  | .int | .float => EndsNumber d
  | .yes | .no | .name => wordChar d = false
  | .string => True
  | _ => ∀ c, lexeme = [c] → pair? c d = none

section

variable {after : Bool} {c d : Char} {cs body rest : List Char} {l : Lexeme} {kind : Kind}

/-- One lexeme at most begins at a place. -/
lemma IsLexeme.unique {t : Token} {ds es r r' : List Char} (h : IsLexeme t ds) (h' : IsLexeme t es)
    (heq : ds ++ r = es ++ r') : ds = es := by
  cases h with
  | exact hk =>
    cases h' with
    | exact => rfl
    | quoted hk' => exact absurd hk' hk
  | @quoted q b hk hq hb =>
    cases h' with
    | exact hk' => exact absurd hk hk'
    | @quoted q' b' _ _ hb' =>
      simp only [List.cons_append, List.append_assoc, List.nil_append, List.cons.injEq] at heq
      obtain ⟨rfl, heq⟩ := heq
      -- The content of the string is read from both, and it has one length.
      have hne : q ≠ '\\' := by rcases hq with rfl | rfl <;> decide
      have hread := contents_append hne hb 0 r
      rw [heq, contents_append hne hb' 0 r'] at hread
      have hlength : b.length = b'.length := by
        have := congrArg Prod.snd (Except.ok.inj hread)
        dsimp only at this
        omega
      rw [(List.append_inj heq hlength).1]

lemma ends_of_gap (kind : Kind) (ds : List Char) (h : gap d) : Ends kind ds d := by
  have hd : EndsNumber d ∧ wordChar d = false ∧ ∀ c, pair? c d = none := by
    simp only [gap, Bool.or_eq_true, decide_eq_true_eq] at h
    rcases h with ((rfl | rfl) | rfl) | rfl <;>
      exact ⟨⟨by decide, by decide, by decide⟩, by decide,
        fun c => by unfold pair?; split <;> simp_all⟩
  cases kind <;> first
    | exact hd.1
    | exact hd.2.1
    | trivial
    | exact fun c _ => hd.2.2 c

/-- The lexeme has the characters `c` and then `body`; `rest` follows, and anything else that cannot
go on with the lexeme might as well. -/
structure Cut (after : Bool) (c : Char) (cs : List Char) (l : Lexeme) (body rest : List Char) :
    Prop where
  text : cs = body ++ rest
  extra : l.extra = body.length
  lexeme : ∀ pos, IsLexeme ⟨l.kind, l.text, pos⟩ (c :: body)
  ends : ∀ d, rest.head? = some d → Ends l.kind (c :: body) d
  again : ∀ rest', (∀ d, rest'.head? = some d → Ends l.kind (c :: body) d) →
    Token.lexeme after c (body ++ rest') = .ok l

lemma exact_lexeme {u : List Char} (hk : kind ≠ .string) (pos : Nat) :
    IsLexeme ⟨kind, String.ofList u, pos⟩ u := by
  have h : IsLexeme ⟨kind, String.ofList u, pos⟩ (String.ofList u).toList := .exact hk
  rwa [String.toList_ofList] at h

lemma lexeme_of_quote (h : c = '"' ∨ c = '\'') (cs : List Char) :
    lexeme after c cs = (contents c 1 cs).map fun r => ⟨.string, String.ofList r.1, r.2 - 1⟩ := by
  rw [lexeme, if_pos (by simpa using h)]

lemma cut_string {r : List Char × Nat} (hq : c = '"' ∨ c = '\'') (h : contents c 1 cs = .ok r) :
    ∃ body rest, Cut after c cs ⟨.string, String.ofList r.1, r.2 - 1⟩ body rest := by
  obtain ⟨body, rest, rfl, hb, hn⟩ := contents_cut h
  have hne : c ≠ '\\' := by rcases hq with rfl | rfl <;> decide
  refine ⟨body ++ [c], rest, by simp, ?_, fun pos => ?_, fun _ _ => trivial, fun rest' _ => ?_⟩
  · simp only [hn, List.length_append, List.length_singleton]
    omega
  · exact .quoted rfl hq (by rwa [String.toList_ofList])
  · rw [lexeme_of_quote hq, List.append_assoc, List.singleton_append, contents_append hne hb, ← hn]
    rfl

lemma cut_number (hc : c.isDigit) (h : number c cs = .ok l) :
    ∃ body rest, Cut after c cs l body rest := by
  obtain ⟨ws, f, fs, p, k, rest, rfl, hw, hf, hp, hr, rfl⟩ := number_cut h
  have hkind : ∀ d, Ends (if f.isEmpty && p.isEmpty && fits (c :: ws) then .int else .float)
      (c :: (ws ++ f ++ p)) d ↔ EndsNumber d := by
    intro d
    split <;> exact Iff.rfl
  refine ⟨ws ++ f ++ p, rest, by simp, rfl, fun pos => ?_, fun d hd => (hkind d).2 (hr d hd),
    fun rest' hr' => ?_⟩
  · refine exact_lexeme (u := c :: (ws ++ f ++ p)) ?_ pos
    dsimp only
    split <;> decide
  · rw [lexeme_of_isDigit hc, List.append_assoc, List.append_assoc]
    exact number_append hw hf hp fun d hd => (hkind d).1 (hr' d hd)

lemma cut_word (h : c.isAlpha ∨ c = '_') (cs : List Char) :
    Cut after c cs (word c cs) (cs.takeWhile wordChar) (cs.dropWhile wordChar) := by
  have hkind : ∀ ds d, Ends (word c cs).kind ds d ↔ wordChar d = false := by
    intro ds d
    rcases word_kind c cs with hk | hk | hk <;> rw [hk] <;> exact Iff.rfl
  have hw : ∀ d ∈ cs.takeWhile wordChar, wordChar d := fun _ hd => List.mem_takeWhile_imp hd
  have hword : word c (cs.takeWhile wordChar) = word c cs := by
    rw [word, word, List.takeWhile_eq_self_iff.2 hw]
  refine ⟨List.takeWhile_append_dropWhile.symm, rfl, fun pos => exact_lexeme ?_ pos, fun d hd => ?_,
    fun rest' hr' => ?_⟩
  · rcases word_kind c cs with hk | hk | hk <;> rw [hk] <;> decide
  · rw [hkind]
    simpa [hd] using List.head?_dropWhile_not wordChar cs
  · rw [← hword]
    exact (lexeme_word after h hw fun d hd => (hkind _ d).1 (hr' d hd)).2.1

/-- A character that begins a sign begins nothing else. -/
lemma isSign_of_single (h : single? after c = some kind) : isSign c := by
  unfold single? at h
  split at h <;> first | rfl | cases h

lemma isSign_of_pair (h : pair? c d = some kind) : isSign c := by
  unfold pair? at h
  split at h <;> first | rfl | cases h

lemma ends_single (h : single? after c = some kind) (ds : List Char) (d : Char) :
    Ends kind ds d ↔ ∀ c, ds = [c] → pair? c d = none := by
  rcases single_kind h with ⟨_, rfl⟩ | ⟨_, rfl⟩ | ⟨-, rfl⟩ | rfl | rfl | rfl <;> exact Iff.rfl

lemma cut_pair (hd : cs.head? = some d) (h : pair? c d = some kind) :
    Cut after c cs ⟨kind, String.ofList (c :: cs.take 1), 1⟩ [d] cs.tail := by
  obtain ⟨cs, rfl⟩ : ∃ ds, cs = d :: ds := by
    cases cs <;> simp_all
  obtain ⟨op, rfl⟩ := pair_kind h
  refine ⟨rfl, rfl, exact_lexeme nofun, fun _ _ => nofun, fun rest' _ => ?_⟩
  have hl := (lexeme_of_sign after (isSign_of_pair h) ([d] ++ rest')).2
  have hp : ([d] ++ rest').head?.bind (pair? c) = some (.binary op) := h
  rw [hp] at hl
  exact hl

lemma cut_single (hp : cs.head?.bind (pair? c) = none) (h : single? after c = some kind) :
    Cut after c cs ⟨kind, c.toString, 0⟩ [] cs := by
  refine ⟨rfl, rfl, fun pos => ?_, fun d hd => (ends_single h _ d).2 ?_, fun rest' hr' => ?_⟩
  · refine exact_lexeme (u := [c]) ?_ pos
    dsimp only
    rcases single_kind h with ⟨_, rfl⟩ | ⟨_, rfl⟩ | ⟨-, rfl⟩ | rfl | rfl | rfl <;> nofun
  · rintro _ ⟨⟩
    rwa [hd] at hp
  · have hl := (lexeme_of_sign after (isSign_of_single h) rest').2
    have hp' : rest'.head?.bind (pair? c) = none := by
      cases hd : rest'.head? with
      | none => rfl
      | some d => exact (ends_single h _ d).1 (hr' d hd) c rfl
    rw [hp', h] at hl
    exact hl

/-- Every lexeme is cut off where it ends. -/
lemma cut_lexeme (h : lexeme after c cs = .ok l) : ∃ body rest, Cut after c cs l body rest := by
  cases lexed_lexeme h with
  | string _ hq hr hl => exact hl ▸ cut_string hq hr
  | number hc hn => exact cut_number hc hn
  | word hc => exact ⟨_, _, cut_word hc cs⟩
  | pair hd hp => exact ⟨_, _, cut_pair hd hp⟩
  | single hp hs => exact ⟨_, _, cut_single hp hs⟩

end

/-! ### Tiles -/

/-- The lexeme of a token stands in the text that begins at offset `start`, where the token says,
and ends there. -/
def Stands (start : Nat) (cs : List Char) (t : Token) (ds : List Char) : Prop :=
  ∃ before behind, cs = before ++ ds ++ behind ∧ t.pos = start + before.length ∧
    ∀ d, behind.head? = some d → Ends t.kind ds d

/-- Tokens with their lexemes tile the text that begins at offset `start`: the lexemes stand in it
one after another, and every other character is a blank. -/
structure Tiling (start : Nat) (cs : List Char) (w : List (Token × List Char)) : Prop where
  lexeme : ∀ p ∈ w, IsLexeme p.1 p.2 ∧ p.2 ≠ []
  stands : ∀ p ∈ w, Stands start cs p.1 p.2
  apart : w.Pairwise fun p p' => p.1.pos + p.2.length ≤ p'.1.pos
  gaps : ∀ before c behind, cs = before ++ c :: behind →
    (∀ p ∈ w, start + before.length < p.1.pos ∨ p.1.pos + p.2.length ≤ start + before.length) →
    gap c

section

variable {start : Nat} {cs ds rest : List Char} {t : Token} {c : Char}
  {w : List (Token × List Char)}

lemma Stands.behind {u : List Char} (h : Stands (start + u.length) cs t ds) :
    Stands start (u ++ cs) t ds := by
  obtain ⟨before, behind, rfl, hpos, hends⟩ := h
  refine ⟨u ++ before, behind, by simp, ?_, hends⟩
  rw [hpos, List.length_append, Nat.add_assoc]

lemma Stands.unique {es : List Char} (h : Stands start cs t ds) (h' : Stands start cs t es)
    (hds : IsLexeme t ds) (hes : IsLexeme t es) : ds = es := by
  obtain ⟨u, v, rfl, hpos, -⟩ := h
  obtain ⟨u', v', heq, hpos', -⟩ := h'
  rw [List.append_assoc, List.append_assoc] at heq
  exact hds.unique hes (List.append_inj heq (by omega)).2

lemma Tiling.nil : Tiling start [] [] :=
  ⟨List.forall_mem_nil _, List.forall_mem_nil _, .nil, fun before c behind h => by simp at h⟩

lemma Tiling.gap (h : Tiling (start + 1) cs w) (hc : gap c) : Tiling start (c :: cs) w := by
  refine ⟨h.lexeme, fun p hp => (h.stands p hp).behind (u := [c]), h.apart, ?_⟩
  rintro (_ | ⟨b, before⟩) d behind heq hout
  · cases heq
    exact hc
  · cases heq
    refine h.gaps before d behind rfl fun p hp => ?_
    have := hout p hp
    rw [List.length_cons] at this
    omega

lemma Tiling.token (h : Tiling (start + ds.length) rest w) (hds : IsLexeme t ds) (hne : ds ≠ [])
    (hpos : t.pos = start) (hends : ∀ d, rest.head? = some d → Ends t.kind ds d) :
    Tiling start (ds ++ rest) ((t, ds) :: w) := by
  refine ⟨List.forall_mem_cons.2 ⟨⟨hds, hne⟩, h.lexeme⟩,
    List.forall_mem_cons.2 ⟨?_, fun p hp => (h.stands p hp).behind⟩,
    List.pairwise_cons.2 ⟨fun p hp => ?_, h.apart⟩, fun before c behind heq hout => ?_⟩
  · exact ⟨[], rest, rfl, hpos, hends⟩
  · obtain ⟨before, -, -, hp, -⟩ := h.stands p hp
    dsimp only
    omega
  · obtain ⟨hhead, htail⟩ := List.forall_mem_cons.1 hout
    have hle : ds.length ≤ before.length := by
      dsimp only at hhead
      omega
    obtain ⟨before, rfl⟩ : ∃ u, before = ds ++ u := by
      have hprefix : ds <+: before :=
        List.prefix_of_prefix_length_le ⟨rest, heq⟩ ⟨c :: behind, rfl⟩ hle
      obtain ⟨u, rfl⟩ := hprefix
      exact ⟨u, rfl⟩
    rw [List.append_assoc] at heq
    refine h.gaps before c behind (List.append_cancel_left heq) fun p hp => ?_
    have := htail p hp
    rw [List.length_append] at this
    omega

/-- Tokens tile a text in one way only. -/
lemma Tiling.unique {w' : List (Token × List Char)} (h : Tiling start cs w)
    (h' : Tiling start cs w') (heq : w.map Prod.fst = w'.map Prod.fst) : w = w' := by
  have hlength : w.length = w'.length := by simpa using congrArg List.length heq
  refine List.ext_getElem hlength fun i hi hi' => ?_
  have hfst : (w[i]).1 = (w'[i]).1 := by
    have := congrArg (·[i]?) heq
    simpa [hi, hi'] using this
  have hp := h.stands _ (List.getElem_mem hi)
  have hp' := h'.stands _ (List.getElem_mem hi')
  rw [← hfst] at hp'
  have hl' := (h'.lexeme _ (List.getElem_mem hi')).1
  rw [← hfst] at hl'
  exact Prod.ext hfst (hp.unique hp' (h.lexeme _ (List.getElem_mem hi)).1 hl')

end

lemma tiling_read {after : Bool} {pos : Nat} {cs : List Char} {ts : List Token}
    (h : read after pos cs = .ok ts) :
    ∃ w, ts = w.map Prod.fst ++ [⟨.stop, "", pos + cs.length⟩] ∧ (∀ p ∈ w, p.1.kind ≠ .stop) ∧
      Tiling pos cs w := by
  replace h := scanned_read h
  induction h with
  | stop => exact ⟨[], rfl, List.forall_mem_nil _, .nil⟩
  | blank hg _ ih =>
    obtain ⟨w, rfl, hw, htiles⟩ := ih
    refine ⟨w, ?_, hw, htiles.gap hg⟩
    rw [List.length_cons, Nat.add_assoc, Nat.add_comm 1]
  | @token _ pos c cs l _ _ hl _ ih =>
    obtain ⟨body, rest, hcut⟩ := cut_lexeme hl
    obtain ⟨w, rfl, hw, htiles⟩ := ih
    rw [hcut.text, hcut.extra, List.drop_left] at htiles
    have hstart : pos + 1 + body.length = pos + (c :: body).length := by
      rw [List.length_cons]
      omega
    rw [hstart] at htiles
    refine ⟨(⟨l.kind, l.text, pos⟩, c :: body) :: w, ?_,
      List.forall_mem_cons.2 ⟨lexeme_kind hl, hw⟩, ?_⟩
    · have hend : pos + 1 + l.extra + (cs.drop l.extra).length = pos + (c :: cs).length := by
        rw [hcut.text, hcut.extra, List.drop_left, List.length_cons, List.length_append]
        omega
      rw [hend]
      rfl
    · rw [hcut.text]
      exact htiles.token (hcut.lexeme pos) (by simp) rfl hcut.ends

/-- **Tokens tile the source.** The last token of a scan is its one `stop`, at the end of the
source. The lexemes of the others stand in the source at the offsets of their tokens, one after
another; each goes on as far as it can, and between them there are only blanks. Which lexemes those
are is determined by the tokens. -/
theorem tokens_tile {source : String} {ts : List Token} (h : scan source = .ok ts) :
    ∃ w : List (Token × List Char), ts = w.map Prod.fst ++ [⟨.stop, "", source.length⟩] ∧
      (∀ p ∈ w, p.1.kind ≠ .stop) ∧ Tiling 0 source.toList w ∧
      ∀ w', Tiling 0 source.toList w' → w'.map Prod.fst = w.map Prod.fst → w' = w := by
  unfold scan at h
  split at h
  · next hr =>
    obtain rfl := Except.ok.inj h
    obtain ⟨w, hts, hw, htiles⟩ := tiling_read hr
    refine ⟨w, ?_, hw, htiles, fun w' htiles' heq => htiles'.unique htiles heq⟩
    rw [hts, Nat.zero_add, String.length_toList]
  · cases h

/-- A name, a comparison and a string with an escape. -/
theorem tokens_tile_comparison :
    let ts : List Token := [⟨.name, "a", 0⟩, ⟨.binary (.order .le), "<=", 2⟩, ⟨.string, "\n'", 4⟩,
      ⟨.stop, "", 10⟩]
    scan "a <='\\n\\''" = .ok ts ∧ ∃ w : List (Token × List Char),
      ts = w.map Prod.fst ++ [⟨.stop, "", 10⟩] ∧ Tiling 0 "a <='\\n\\''".toList w := by
  intro ts
  have hscan : scan "a <='\\n\\''" = .ok ts := by
    rw [scan_eq]
    simp only [ts]
    decide +kernel
  obtain ⟨w, hts, -, htiles, -⟩ := tokens_tile hscan
  exact ⟨hscan, w, hts, htiles⟩

end Reckon.Token
