import Reckon.Action
import Reckon.Proofs.Token.Numbers
import Reckon.Token.Scan

/-!
What the tokens of a scan look like. An integer is in range, a float is read as one that is not
negative and not NaN, and a name is a word that is no literal. What holds of all scans is proved
along the way that their tokens come about (`Scanned`), lexeme by lexeme (`Lexed`).
-/

namespace Reckon.Token

open Text Rounding

/-- The text starts with a letter or an underscore, goes on with letters, digits and underscores,
and is neither `true` nor `false`. -/
structure IsName (s : String) : Prop where
  shape : ∃ c cs, s = String.ofList (c :: cs) ∧ (c.isAlpha ∨ c = '_') ∧ ∀ d ∈ cs, wordChar d
  not_true : s ≠ "true"
  not_false : s ≠ "false"

/-- The text of a token suits its kind. -/
def Sound (kind : Kind) (text : String) : Prop :=
  match kind with
  | .int => ∃ ds, text = String.ofList ds ∧ Digits ds ∧ ds ≠ [] ∧ (numeral ds : Int) ≤ greatest
  | .float => ∃ x, Decimal.read? text = some x ∧ Signed .positive x.toModel.unpack
  | .name => IsName text
  | _ => True

lemma sound_number {c : Char} {cs : List Char} {l : Lexeme} (hc : c.isDigit)
    (h : number c cs = .ok l) : Sound l.kind l.text := by
  obtain ⟨ws, f, fs, p, k, hw, hne, hf, hp, ht, hk | ⟨hk, rfl, rfl, hfit⟩⟩ := number_spec hc h
  · rw [hk, ht]
    exact ⟨_, Decimal.read?_shape hw hne hf hp, Decimal.signed_toFloat _⟩
  · rw [hk, ht, List.append_nil, List.append_nil]
    have hle := (fits_iff hw).1 hfit
    have : greatest = (greatest.toNat : Int) := rfl
    exact ⟨ws, rfl, hw, hne, by omega⟩

lemma sound_word {c : Char} (h : c.isAlpha ∨ c = '_') (cs : List Char) :
    Sound (word c cs).kind (word c cs).text := by
  rw [word]
  generalize ht : String.ofList (c :: cs.takeWhile wordChar) = text
  simp only
  split
  · trivial
  split
  · trivial
  next h₁ h₂ =>
  exact ⟨⟨c, _, ht.symm, h, fun _ hd => List.mem_takeWhile_imp hd⟩, h₁, h₂⟩

lemma sound_pair {c d : Char} {kind : Kind} (h : pair? c d = some kind) (text : String) :
    Sound kind text := by
  unfold pair? at h
  split at h <;> cases h <;> trivial

lemma sound_single {after : Bool} {c : Char} {kind : Kind} (h : single? after c = some kind)
    (text : String) : Sound kind text := by
  unfold single? at h
  cases after <;> split at h <;> cases h <;> trivial

/-- How a lexeme comes about. -/
inductive Lexed (after : Bool) (c : Char) (cs : List Char) : Lexeme → Prop
  | string {l r} (hk : l.kind = .string) (hq : c = '"' ∨ c = '\'') (h : contents c 1 cs = .ok r)
    (hl : l = ⟨.string, String.ofList r.1, r.2 - 1⟩) : Lexed after c cs l
  | number {l} (hc : c.isDigit) (h : number c cs = .ok l) : Lexed after c cs l
  | word (hc : c.isAlpha ∨ c = '_') : Lexed after c cs (word c cs)
  | pair {d kind} (hd : cs.head? = some d) (h : pair? c d = some kind) :
    Lexed after c cs ⟨kind, String.ofList (c :: cs.take 1), 1⟩
  | single {kind} (hp : cs.head?.bind (pair? c) = none) (h : single? after c = some kind) :
    Lexed after c cs ⟨kind, c.toString, 0⟩

lemma lexed_lexeme {after : Bool} {c : Char} {cs : List Char} {l : Lexeme}
    (h : lexeme after c cs = .ok l) : Lexed after c cs l := by
  unfold lexeme at h
  split at h
  · next hq =>
    obtain ⟨r, hr, rfl⟩ := Action.map_eq_ok h
    exact .string rfl (by simpa using hq) hr rfl
  split at h
  · next hd => exact .number hd h
  split at h
  · next hw =>
    obtain rfl := Except.ok.inj h
    exact .word (by simpa using hw)
  split at h
  · next kind hp =>
    obtain rfl := Except.ok.inj h
    obtain ⟨d, hd, hp⟩ := Option.bind_eq_some_iff.1 hp
    exact .pair hd hp
  · next hp hs =>
    obtain rfl := Except.ok.inj h
    exact .single hp hs
  · cases h

lemma sound_lexeme {after : Bool} {c : Char} {cs : List Char} {l : Lexeme}
    (h : lexeme after c cs = .ok l) : Sound l.kind l.text := by
  cases lexed_lexeme h with
  | string hk => rw [hk]; trivial
  | number hc hn => exact sound_number hc hn
  | word hc => exact sound_word hc cs
  | pair hd hp => exact sound_pair hp _
  | single hp hs => exact sound_single hs _

lemma word_kind (c : Char) (cs : List Char) :
    (word c cs).kind = .yes ∨ (word c cs).kind = .no ∨ (word c cs).kind = .name := by
  unfold word
  simp only
  split
  · exact .inl rfl
  · split
    · exact .inr (.inl rfl)
    · exact .inr (.inr rfl)

lemma number_kind {c : Char} {cs : List Char} {l : Lexeme} (hc : c.isDigit)
    (h : number c cs = .ok l) : l.kind = .float ∨ l.kind = .int := by
  obtain ⟨_, _, _, _, _, -, -, -, -, -, hk | ⟨hk, -⟩⟩ := number_spec hc h
  · exact .inl hk
  · exact .inr hk

lemma pair_kind {c d : Char} {kind : Kind} (h : pair? c d = some kind) :
    ∃ op, kind = .binary op := by
  unfold pair? at h
  split at h <;> cases h <;> exact ⟨_, rfl⟩

/-- The only sign that is no operator, parenthesis or comma is the one of assignments. -/
lemma single_kind {after : Bool} {c : Char} {kind : Kind} (h : single? after c = some kind) :
    (∃ op, kind = .binary op) ∨ (∃ op, kind = .unary op) ∨ c = '=' ∧ kind = .assign ∨
      kind = .opening ∨ kind = .closing ∨ kind = .comma := by
  unfold single? at h
  cases after <;> split at h <;> cases h <;> simp

lemma lexeme_kind {after : Bool} {c : Char} {cs : List Char} {l : Lexeme}
    (h : lexeme after c cs = .ok l) : l.kind ≠ .stop := by
  cases lexed_lexeme h with
  | string hk => rw [hk]; nofun
  | number hc hn => rcases number_kind hc hn with hk | hk <;> rw [hk] <;> nofun
  | word hc => rcases word_kind c cs with hk | hk | hk <;> rw [hk] <;> nofun
  | pair hd hp => obtain ⟨op, rfl⟩ := pair_kind hp; nofun
  | single hp hs =>
    rcases single_kind hs with ⟨_, rfl⟩ | ⟨_, rfl⟩ | ⟨-, rfl⟩ | rfl | rfl | rfl <;> nofun

/-- How the tokens of a text come about. -/
inductive Scanned : Bool → Nat → List Char → List Token → Prop
  | stop {after pos} : Scanned after pos [] [⟨.stop, "", pos⟩]
  | blank {after pos c cs ts} (hg : gap c) (h : Scanned after (pos + 1) cs ts) :
      Scanned after pos (c :: cs) ts
  | token {after pos c cs l ts} (hg : gap c = false) (hl : lexeme after c cs = .ok l)
    (h : Scanned l.kind.endsOperand (pos + 1 + l.extra) (cs.drop l.extra) ts) :
    Scanned after pos (c :: cs) (⟨l.kind, l.text, pos⟩ :: ts)

lemma scanned_read {after : Bool} {pos : Nat} {cs : List Char} {ts : List Token}
    (h : read after pos cs = .ok ts) : Scanned after pos cs ts := by
  induction after, pos, cs using read.induct generalizing ts with
  | case1 after pos =>
    rw [read] at h
    obtain rfl := Except.ok.inj h
    exact .stop
  | case2 after pos c cs hg ih =>
    rw [read, if_pos hg] at h
    exact .blank hg (ih h)
  | case3 after pos c cs hg f k hl =>
    rw [read, if_neg hg, hl] at h
    cases h
  | case4 after pos c cs hg l hl ih =>
    rw [read, if_neg hg, hl] at h
    obtain ⟨us, hus, rfl⟩ := Action.map_eq_ok h
    exact .token (Bool.eq_false_iff.2 hg) hl (ih hus)

/-- A token of a scan is the one at the end, or it comes from the lexeme that stands in the text
at its offset. -/
lemma lexeme_of_mem {after : Bool} {pos : Nat} {cs : List Char} {ts : List Token}
    (h : read after pos cs = .ok ts) {t : Token} (ht : t ∈ ts) :
    t.kind = .stop ∧ pos + cs.length ≤ t.pos ∨
      ∃ before c rest after' l, cs = before ++ c :: rest ∧ lexeme after' c rest = .ok l ∧
        t = ⟨l.kind, l.text, pos + before.length⟩ := by
  replace h := scanned_read h
  induction h with
  | stop =>
    obtain rfl := List.mem_singleton.1 ht
    exact .inl ⟨rfl, Nat.le_refl _⟩
  | @blank _ _ c _ _ _ _ ih =>
    rcases ih ht with ⟨hk, hpos⟩ | ⟨before, d, rest, after', l, rfl, hl, rfl⟩
    · exact .inl ⟨hk, by rw [List.length_cons]; omega⟩
    · exact .inr ⟨c :: before, d, rest, after', l, rfl, hl,
        by rw [List.length_cons, Nat.add_right_comm, Nat.add_assoc]⟩
  | @token after _ c cs l _ _ hl _ ih =>
    rcases List.mem_cons.1 ht with rfl | ht
    · exact .inr ⟨[], c, cs, after, l, rfl, hl, rfl⟩
    rcases ih ht with ⟨hk, hpos⟩ | ⟨before, d, rest, after', l', hcs, hl', rfl⟩
    · rw [List.length_drop] at hpos
      exact .inl ⟨hk, by rw [List.length_cons]; omega⟩
    · -- Something is left behind the lexeme, so all of it stands in the text.
      have hlength := congrArg List.length hcs
      rw [List.length_drop, List.length_append, List.length_cons] at hlength
      refine .inr ⟨c :: (cs.take l.extra ++ before), d, rest, after', l', ?_, hl', ?_⟩
      · rw [List.cons_append, List.append_assoc, ← hcs, List.take_append_drop]
      · rw [List.length_cons, List.length_append, List.length_take, Nat.min_eq_left (by omega)]
        congr 1
        omega

lemma sound_read {after : Bool} {pos : Nat} {cs : List Char} {ts : List Token}
    (h : read after pos cs = .ok ts) : ∀ t ∈ ts, Sound t.kind t.text := by
  intro t ht
  rcases lexeme_of_mem h ht with ⟨hk, -⟩ | ⟨_, _, _, _, _, -, hl, rfl⟩
  · rw [hk]
    trivial
  · exact sound_lexeme hl

lemma read_of_scan {source : String} {ts : List Token} (h : scan source = .ok ts) :
    read false 0 source.toList = .ok ts := by
  unfold scan at h
  split at h
  · next hr => rw [hr, Except.ok.inj h]
  · cases h

theorem sound_scan {source : String} {ts : List Token} (h : scan source = .ok ts) :
    ∀ t ∈ ts, Sound t.kind t.text :=
  sound_read (read_of_scan h)

end Reckon.Token
