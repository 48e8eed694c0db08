import Reckon.Action
import Reckon.Proofs.Token.Fronts
import Reckon.Tree.Build

/-!
The builder knows no offsets. On tokens of the same kinds and texts it goes through the same rules,
builds the same tree and refuses for the same cause; the offset of a refusal is that of a token, and
so it is related to the other one as the offsets of the tokens are. In particular a refusal of
tokens that are all moved is moved as they are.
-/

namespace Reckon

open Reckon.Action Token

/-- The tokens are alike but for their offsets, which are related. -/
structure Token.Matches (P : Nat → Nat → Prop) (t t' : Token) : Prop where
  kind : t'.kind = t.kind
  text : t'.text = t.text
  pos : P t.pos t'.pos

structure Cursor.Matches (P : Nat → Nat → Prop) (c c' : Cursor) : Prop where
  passed : List.Forall₂ (Token.Matches P) c.passed c'.passed
  rest : List.Forall₂ (Token.Matches P) c.rest c'.rest
  stop : P c.stop c'.stop
  crest : c'.crest.length = c.crest.length

structure Refusal.Matches (P : Nat → Nat → Prop) (r r' : Refusal) : Prop where
  cause : r'.cause = r.cause
  pos : P r.pos r'.pos

def Refusal.moved (k : Nat) (r : Refusal) : Refusal :=
  ⟨r.cause, r.pos + k⟩

namespace Cursor.Matches

variable {P : Nat → Nat → Prop} {c c' : Cursor}

lemma current (h : c.Matches P c') : c.current.Matches P c'.current := by
  obtain ⟨passed, rest, stop, crest⟩ := c
  obtain ⟨passed', rest', stop', crest'⟩ := c'
  obtain ⟨-, hr, hs, -⟩ := h
  cases hr with
  | nil => exact ⟨rfl, rfl, hs⟩
  | cons ht => exact ht

lemma advance (h : c.Matches P c') : c.advance.Matches P c'.advance := by
  obtain ⟨passed, rest, stop, crest⟩ := c
  obtain ⟨passed', rest', stop', crest'⟩ := c'
  obtain ⟨hp, hr, hs, hc⟩ := h
  cases hr with
  | nil => exact ⟨hp, .nil, hs, hc⟩
  | cons ht hts => exact ⟨.cons ht hp, hts, hs, hc⟩

lemma next (h : c.Matches P c') : c.next.Matches P c'.next := by
  obtain ⟨passed, rest, stop, crest⟩ := c
  obtain ⟨passed', rest', stop', crest'⟩ := c'
  obtain ⟨-, hr, hs, -⟩ := h
  cases hr with
  | nil => exact ⟨rfl, rfl, hs⟩
  | cons _ hts =>
    cases hts with
    | nil => exact ⟨rfl, rfl, hs⟩
    | cons ht => exact ht

lemma opened (h : c.Matches P c') (depth : Nat) (t t' : Token) :
    (c.opened depth t).Matches P (c'.opened depth t') := by
  rw [Cursor.opened, Cursor.opened, h.crest]
  split
  · exact ⟨h.passed, h.rest, h.stop, by rw [List.length_cons, List.length_cons, h.crest]⟩
  · exact h

lemma misplaced (h : c.Matches P c') : c'.misplaced = c.misplaced := by
  have hc := h.current
  rw [Cursor.misplaced, Cursor.misplaced]
  generalize c.current = t at hc
  generalize c'.current = t' at hc
  obtain ⟨hkind, htext, -⟩ := hc
  have halone : Cursor.misplaced.alone t' = Cursor.misplaced.alone t := by
    rw [Cursor.misplaced.alone, Cursor.misplaced.alone, hkind, htext]
  obtain ⟨hp, -, -, -⟩ := h
  generalize c.passed = ps at hp
  generalize c'.passed = ps' at hp
  cases hp with
  | nil => exact halone
  | cons ht => simp only [List.head?_cons, hkind, ht.kind, ht.text, halone]

end Cursor.Matches

namespace Builder

variable {P : Nat → Nat → Prop} {α β : Type}

/-- On cursors that match the actions end alike. -/
abbrev Agree (P : Nat → Nat → Prop) (V : α → β → Prop) (x : Builder α) (y : Builder β) : Prop :=
  Relates (Cursor.Matches P) (Refusal.Matches P) V x y

/-- The action does the same on cursors that match. -/
abbrev Blind (P : Nat → Nat → Prop) (x : Builder α) : Prop :=
  Agree P Eq x x

lemma agree_current : Agree P (Token.Matches P) current current :=
  .get fun _ _ hc => .pure hc.current

lemma agree_advance : Agree P (Token.Matches P) advance advance :=
  fun _ _ hc => .ok hc.current hc.advance

lemma agree_rounds : Agree P (fun ts ts' => ts'.length = ts.length) rounds rounds :=
  .get fun _ _ hc => .pure (by simp [hc.rest.length_eq])

lemma agree_refuse (f : ParseFault) {t t' : Token} (h : t.Matches P t') {V : α → β → Prop} :
    Agree P V (refuse f t) (refuse f t') :=
  .throw ⟨rfl, h.pos⟩

lemma agree_fault (f : Fault) {V : α → β → Prop} : Agree P V (fault f) (fault f) :=
  agree_current.bind fun _ _ h => .throw ⟨rfl, h.pos⟩

lemma agree_misplaced {V : α → β → Prop} : Agree P V misplaced misplaced := by
  refine .get fun c c' hc => ?_
  rw [hc.misplaced]
  exact agree_refuse _ hc.current

lemma agree_enter (limit : Int) (depth : Nat) {t t' : Token} (h : t.Matches P t') :
    Agree P Eq (enter limit depth t) (enter limit depth t') := by
  unfold enter
  split
  · exact Relates.bind (V := Eq) (.throw ⟨rfl, h.pos⟩) fun _ _ _ => .modify fun _ _ hc =>
      hc.opened depth t t'
  · exact .modify fun _ _ hc => hc.opened depth t t'

lemma blind_discard : Blind P (discard advance) :=
  agree_advance.bind fun _ _ _ => .pure rfl

lemma agree_close (f : ParseFault) {t t' : Token} (h : t.Matches P t') :
    Agree P Eq (close f t) (close f t') := by
  refine agree_current.bind fun u u' hu => ?_
  rw [hu.kind]
  cases u.kind with
  | closing => exact blind_discard
  | stop => exact agree_refuse f h
  | _ => exact agree_misplaced

/-! ### Rules -/

section

variable {element : Builder Tree}

lemma agree_elements (h : Blind P element) {rounds rounds' : List Token}
    (hr : rounds'.length = rounds.length) :
    Agree P Eq (elements element rounds) (elements element rounds') := by
  induction rounds generalizing rounds' with
  | nil =>
    obtain rfl := List.length_eq_zero_iff.1 hr
    exact agree_fault .rules
  | cons t rounds ih =>
    obtain ⟨t', rounds', rfl⟩ := List.exists_cons_of_length_eq_add_one hr
    refine agree_current.bind fun u u' hu => ?_
    refine .ite (by rw [hu.kind]) ?_ (.pure rfl)
    exact blind_discard.bind_same fun _ => h.bind_same fun t =>
      (ih (Nat.succ_inj.1 hr)).bind_same fun ts => .pure rfl

lemma blind_arguments (h : Blind P element) : Blind P (arguments element) := by
  refine agree_current.bind fun u u' hu => ?_
  refine .ite (by rw [hu.kind]) (.pure rfl) (h.bind_same fun t => ?_)
  exact agree_rounds.bind fun ts ts' hts => (agree_elements h hts).bind_same fun us => .pure rfl

lemma agree_climb {right : Binary → Token → Builder Tree}
    (h : ∀ op t t', t.Matches P t' → Agree P Eq (right op t) (right op t')) (least : Nat)
    {rounds rounds' : List Token} (hr : rounds'.length = rounds.length) (l : Tree) :
    Agree P Eq (climb right least rounds l) (climb right least rounds' l) := by
  induction rounds generalizing rounds' l with
  | nil =>
    obtain rfl := List.length_eq_zero_iff.1 hr
    exact agree_fault .rules
  | cons t rounds ih =>
    obtain ⟨t', rounds', rfl⟩ := List.exists_cons_of_length_eq_add_one hr
    refine agree_current.bind fun u u' hu => ?_
    rw [hu.kind]
    cases u.kind with
    | binary op =>
      refine .ite Iff.rfl (.pure rfl) ?_
      exact agree_advance.bind fun t t' ht => (h op t t' ht).bind_same fun r =>
        ih (Nat.succ_inj.1 hr) _
    | _ => exact .pure rfl

end

lemma literal_matches {t t' : Token} (h : t.Matches P t') : literal? t' = literal? t := by
  rw [literal?, literal?, h.kind, h.text]

lemma blind_rule (limit : Int) (active : Nat) (r : Rule) (depth : Nat) :
    Blind P (rule limit active r depth) := by
  induction active generalizing r depth with
  | zero => exact agree_fault .rules
  | succ active ih =>
    cases r with
    | sequence =>
      refine (ih _ _).bind_same fun t => agree_current.bind fun u u' hu => ?_
      refine .ite (by rw [hu.kind]) ?_ (.pure rfl)
      exact agree_rounds.bind fun ts ts' hts => (agree_elements (ih _ _) hts).bind_same fun us =>
        .pure rfl
    | chain least =>
      refine (ih _ _).bind_same fun l => agree_rounds.bind fun ts ts' hts => ?_
      refine agree_climb (fun op t t' ht => ?_) least hts l
      exact .ite Iff.rfl ((agree_enter limit depth ht).bind_same fun _ => ih _ _) (ih _ _)
    | signed =>
      refine agree_current.bind fun u u' hu => ?_
      rw [hu.kind]
      cases u.kind with
      | unary op =>
        refine agree_advance.bind fun t t' ht => ?_
        exact (agree_enter limit depth ht).bind_same fun _ => (ih _ _).bind_same fun t => .pure rfl
      | _ => exact ih _ _
    | primary =>
      refine .get fun c c' hc => ?_
      simp only [literal_matches hc.current, hc.current.kind, hc.current.text, hc.next.kind]
      cases literal? c.current with
      | some r => cases r with
        | ok v => exact blind_discard.bind_same fun _ => .pure rfl
        | error f => exact agree_fault f
      | none =>
        cases c.current.kind with
        | opening => exact ih _ _
        | name => exact .ite Iff.rfl (ih _ _) (blind_discard.bind_same fun _ => .pure rfl)
        | _ => exact agree_misplaced
    | group =>
      refine agree_advance.bind fun t t' ht => agree_current.bind fun u u' hu => ?_
      refine .ite (by rw [hu.kind]) (blind_discard.bind_same fun _ => .pure rfl) ?_
      refine (agree_enter limit depth ht).bind_same fun _ => (ih _ _).bind_same fun e => ?_
      exact (agree_close _ ht).bind_same fun _ => .pure rfl
    | call =>
      refine agree_advance.bind fun f f' hf => agree_advance.bind fun t t' ht => ?_
      refine (agree_enter limit depth ht).bind_same fun _ =>
        (blind_arguments (ih _ _)).bind_same fun args => ?_
      rw [hf.text]
      exact (agree_close _ ht).bind_same fun _ => .pure rfl

lemma blind_whole (limit : Int) : Blind P (whole limit) := by
  refine agree_current.bind fun u u' hu => .ite (by rw [hu.kind]) ?_ ?_
  · exact agree_current.bind fun v v' hv => agree_refuse .nothing hv
  · refine (blind_rule limit (allowance limit) .sequence 0).bind_same fun t =>
      agree_current.bind fun v v' hv => ?_
    rw [hv.kind]
    cases v.kind with
    | stop => exact .pure rfl
    | closing | assign => exact agree_refuse _ hv
    | _ =>
      rw [hv.text]
      exact agree_refuse _ hv

end Builder

namespace Tree

variable {P : Nat → Nat → Prop} {ts ts' : List Token}

lemma matches_takeWhile (h : List.Forall₂ (Token.Matches P) ts ts') :
    List.Forall₂ (Token.Matches P) (ts.takeWhile (·.kind ≠ .stop))
      (ts'.takeWhile (·.kind ≠ .stop)) := by
  induction h with
  | nil => exact .nil
  | cons ht h ih =>
    rw [List.takeWhile_cons, List.takeWhile_cons, ht.kind]
    split
    · exact .cons ht ih
    · exact .nil

lemma matches_find (h : List.Forall₂ (Token.Matches P) ts ts') (hstop : ∃ t ∈ ts, t.kind = .stop) :
    ∃ t t', t.Matches P t' ∧ ts.find? (·.kind = .stop) = some t ∧
      ts'.find? (·.kind = .stop) = some t' := by
  induction h with
  | nil => obtain ⟨t, ht, -⟩ := hstop; cases ht
  | @cons t t' ts ts' ht h ih =>
    rw [List.find?_cons, List.find?_cons, ht.kind]
    by_cases hk : t.kind = .stop
    · exact ⟨t, t', ht, by simp [hk], by simp [hk]⟩
    · obtain ⟨u, hu, huk⟩ := hstop
      rcases List.mem_cons.1 hu with rfl | hu
      · exact absurd huk hk
      · simpa [hk] using ih ⟨u, hu, huk⟩

lemma matches_ofTokens (h : List.Forall₂ (Token.Matches P) ts ts')
    (hstop : ∃ t ∈ ts, t.kind = .stop) : (Cursor.ofTokens ts).Matches P (Cursor.ofTokens ts') := by
  obtain ⟨t, t', ht, hfind, hfind'⟩ := matches_find h hstop
  rw [Cursor.ofTokens, Cursor.ofTokens, hfind, hfind']
  exact ⟨.nil, matches_takeWhile h, ht.pos, rfl⟩

/-- What is built from tokens of the same kinds and texts, in another source. -/
theorem build_matches (source source' : Option String) (limit : Int)
    (h : List.Forall₂ (Token.Matches P) ts ts') (hstop : ∃ t ∈ ts, t.kind = .stop) :
    (∃ t, build source limit ts = .ok t ∧ build source' limit ts' = .ok t) ∨
    ∃ r r' : Refusal, r.Matches P r' ∧ build source limit ts = .error (r.error source) ∧
      build source' limit ts' = .error (r'.error source') := by
  have hwhole := Builder.blind_whole limit _ _ (matches_ofTokens h hstop)
  simp only [build, run, EStateM.run]
  generalize Builder.whole limit (.ofTokens ts) = res at hwhole
  generalize Builder.whole limit (.ofTokens ts') = res' at hwhole
  cases hwhole with
  | ok ht => exact .inl ⟨_, rfl, by rw [ht]⟩
  | error hr => exact .inr ⟨_, _, hr, rfl, rfl⟩

/-- What is built from moved tokens, in another source. -/
theorem build_moved {k : Nat} (source source' : Option String) (limit : Int)
    (h : ∃ t ∈ ts, t.kind = .stop) :
    (∃ t, build source limit ts = .ok t ∧ build source' limit (ts.map (Token.moved k)) = .ok t) ∨
    ∃ r : Refusal, build source limit ts = .error (r.error source) ∧
      build source' limit (ts.map (Token.moved k)) = .error ((r.moved k).error source') := by
  have hts : List.Forall₂ (Token.Matches fun p q => q = p + k) ts (ts.map (Token.moved k)) :=
    List.forall₂_map_right_iff.2 (List.forall₂_same.2 fun _ _ => ⟨rfl, rfl, rfl⟩)
  refine (build_matches source source' limit hts h).imp_right ?_
  rintro ⟨r, ⟨cause, pos⟩, ⟨rfl, rfl⟩, hr, hr'⟩
  exact ⟨r, hr, hr'⟩

end Tree

end Reckon
