import Reckon.Proofs.Token.Scans

/-!
The front of a scan. The tokens of a text within a longer one are its own tokens with their offsets
moved, and the first token of a text is the lexeme that stands behind its first blanks.
-/

namespace Reckon.Token

section

variable {after : Bool} {pos : Nat} {c : Char} {cs w rest : List Char}

def moved (k : Nat) (t : Token) : Token :=
  { t with pos := t.pos + k }

@[simp] lemma kind_moved (k : Nat) (t : Token) : (t.moved k).kind = t.kind := rfl

@[simp] lemma text_moved (k : Nat) (t : Token) : (t.moved k).text = t.text := rfl

/-- A scan that starts further on. -/
theorem read_moved (k : Nat) (after : Bool) (pos : Nat) (cs : List Char) :
    read after (pos + k) cs =
      match read after pos cs with
      | .ok ts => .ok (ts.map (moved k))
      | .error (f, q) => .error (f, q + k) := by
  induction after, pos, cs using read.induct with
  | case1 after pos => rw [read, read]; rfl
  | case2 after pos c cs hg ih =>
    rw [read, read, if_pos hg, if_pos hg, Nat.add_right_comm]
    exact ih
  | case3 after pos c cs hg f q hl =>
    rw [read, read, if_neg hg, if_neg hg, hl]
    simp only [Nat.add_right_comm]
  | case4 after pos c cs hg l hl ih =>
    have hpos : pos + k + 1 + l.extra = pos + 1 + l.extra + k := by omega
    rw [read, read, if_neg hg, if_neg hg, hl]
    simp only [hpos, ih]
    cases read l.kind.endsOperand (pos + 1 + l.extra) (cs.drop l.extra) <;> rfl

/-! ### Pieces of a text -/

lemma read_lexeme {l : Lexeme} (hg : gap c = false) (hl : lexeme after c cs = .ok l) :
    read after pos (c :: cs) =
      (read l.kind.endsOperand (pos + 1 + l.extra) (cs.drop l.extra)).map
        (⟨l.kind, l.text, pos⟩ :: ·) := by
  rw [read, if_neg (by simp [hg]), hl]

lemma read_gaps (hw : ∀ d ∈ w, gap d) :
    read after pos (w ++ cs) = read after (pos + w.length) cs := by
  induction w generalizing pos with
  | nil => rfl
  | cons d w ih =>
    obtain ⟨hd, hw⟩ := List.forall_mem_cons.1 hw
    rw [List.cons_append, read, if_pos hd, ih hw, List.length_cons, Nat.add_assoc, Nat.add_comm 1]

lemma read_name {n : String} (h : IsName n) (hr : ∀ d, rest.head? = some d → wordChar d = false) :
    read after pos (n.toList ++ rest) =
      (read true (pos + n.toList.length) rest).map (⟨.name, n, pos⟩ :: ·) := by
  obtain ⟨⟨c, cs, rfl, hc, hw⟩, ht, hf⟩ := h
  obtain ⟨hg, hl, hextra⟩ := lexeme_word after hc hw hr
  obtain ⟨hkind, htext⟩ := word_of_isName hw ht hf
  rw [String.toList_ofList, List.cons_append, read_lexeme hg hl, word_ends, hkind, htext, hextra,
    List.drop_left, List.length_cons, Nat.add_assoc, Nat.add_comm 1]

lemma read_assign (hr : rest.head? ≠ some '=') :
    read after pos ('=' :: rest) = (read false (pos + 1) rest).map (⟨.assign, "=", pos⟩ :: ·) := by
  have hpair : rest.head?.bind (pair? '=') = none := by
    cases rest with
    | nil => rfl
    | cons d rest =>
      have hd : d ≠ '=' := fun h => hr (by rw [h]; rfl)
      change pair? '=' d = none
      unfold pair?
      split <;> simp_all
  obtain ⟨hg, hl⟩ := lexeme_of_sign after (c := '=') rfl rest
  rw [hpair] at hl
  exact read_lexeme hg hl

/-! ### First tokens -/

/-- What stands in the text for its first token. -/
lemma Scanned.front {t : Token} {ts : List Token} (h : Scanned after pos cs (t :: ts))
    (hne : t.kind ≠ .stop) :
    ∃ w c rest l, cs = w ++ c :: rest ∧ (∀ d ∈ w, gap d) ∧ lexeme after c rest = .ok l ∧
      t = ⟨l.kind, l.text, pos + w.length⟩ ∧
      Scanned l.kind.endsOperand (pos + w.length + 1 + l.extra) (rest.drop l.extra) ts := by
  generalize hts : t :: ts = us at h
  induction h with
  | stop =>
    cases hts
    exact absurd rfl hne
  | @blank _ pos c _ _ hg _ ih =>
    obtain ⟨w, d, rest, l, rfl, hw, hl, rfl, hrest⟩ := ih hts
    have hpos : pos + (c :: w).length = pos + 1 + w.length := by rw [List.length_cons]; omega
    refine ⟨c :: w, d, rest, l, rfl, List.forall_mem_cons.2 ⟨hg, hw⟩, hl, ?_, ?_⟩
    · rw [hpos]
    · rw [hpos]; exact hrest
  | @token _ _ c cs l _ _ hl hrest =>
    cases hts
    exact ⟨[], c, cs, l, rfl, List.forall_mem_nil _, hl, rfl, hrest⟩

/-- Only blanks have no token but the last one. -/
lemma gaps_of_stop {t : Token} {ts : List Token} (h : read after pos cs = .ok (t :: ts))
    (hk : t.kind = .stop) : ∀ d ∈ cs, gap d := by
  replace h := scanned_read h
  generalize hts : t :: ts = us at h
  induction h with
  | stop => exact List.forall_mem_nil _
  | blank hg _ ih => exact List.forall_mem_cons.2 ⟨hg, ih hts⟩
  | token _ hl =>
    cases hts
    exact absurd hk (lexeme_kind hl)

/-- A name stands in the text before what is read after it. -/
lemma lexeme_name {l : Lexeme} (h : lexeme after c cs = .ok l) (hk : l.kind = .name) :
    c :: cs = l.text.toList ++ cs.drop l.extra := by
  cases lexed_lexeme h with
  | string hk' => rw [hk] at hk'; cases hk'
  | number hc hn => rcases number_kind hc hn with hk' | hk' <;> rw [hk] at hk' <;> cases hk'
  | word hc =>
    have hsplit : cs = cs.takeWhile wordChar ++ cs.drop (cs.takeWhile wordChar).length := by
      conv_lhs => rw [← List.take_append_drop (cs.takeWhile wordChar).length cs]
      congr 1
      exact (List.prefix_iff_eq_take.1 (List.takeWhile_prefix _)).symm
    change c :: cs = (String.ofList (c :: cs.takeWhile wordChar)).toList ++ _
    rw [String.toList_ofList, List.cons_append]
    exact congrArg _ hsplit
  | pair hd hp => obtain ⟨op, rfl⟩ := pair_kind hp; cases hk
  | single hp hs =>
    rcases single_kind hs with ⟨_, rfl⟩ | ⟨_, rfl⟩ | ⟨-, rfl⟩ | rfl | rfl | rfl <;> cases hk

lemma lexeme_assign {l : Lexeme} (h : lexeme after c cs = .ok l) (hk : l.kind = .assign) :
    c = '=' ∧ l.extra = 0 ∧ cs.head? ≠ some '=' := by
  cases lexed_lexeme h with
  | string hk' => rw [hk] at hk'; cases hk'
  | number hc hn => rcases number_kind hc hn with hk' | hk' <;> rw [hk] at hk' <;> cases hk'
  | word hc => rcases word_kind c cs with hk' | hk' | hk' <;> rw [hk] at hk' <;> cases hk'
  | pair hd hp => obtain ⟨op, rfl⟩ := pair_kind hp; cases hk
  | single hp hs =>
    rcases single_kind hs with ⟨_, rfl⟩ | ⟨_, rfl⟩ | ⟨rfl, rfl⟩ | rfl | rfl | rfl <;> try cases hk
    refine ⟨rfl, rfl, fun hd => ?_⟩
    rw [hd] at hp
    cases hp

end

end Reckon.Token
