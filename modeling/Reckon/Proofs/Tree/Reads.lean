import Reckon.Action
import Reckon.Proofs.Text.Digits
import Reckon.Tree.Build

/-!
What the builder does, rule by rule. `Reads limit r depth c res` says that rule `r` at some depth of
nesting, started at cursor `c`, ends with `res`, which is a tree and the cursor behind it or a
refusal; `More`, `Climbs`, `Operand` and `Arguments` say the same of the parts that rules are made
of. No count of active rules or of rounds occurs: the rules read as `Reads` says under any allowance
that is large enough (`reads_rule`), and the allowance that the builder is given is.
-/

namespace Reckon

namespace Cursor

variable {c : Cursor}

@[simp] lemma rest_opened (depth : Nat) (t : Token) : (c.opened depth t).rest = c.rest := by
  rw [opened]; split <;> rfl

@[simp] lemma passed_opened (depth : Nat) (t : Token) : (c.opened depth t).passed = c.passed := by
  rw [opened]; split <;> rfl

@[simp] lemma stop_opened (depth : Nat) (t : Token) : (c.opened depth t).stop = c.stop := by
  rw [opened]; split <;> rfl

lemma current_cons {t : Token} {ts : List Token} (h : c.rest = t :: ts) : c.current = t := by
  simp [current, h]

lemma advance_cons {t : Token} {ts : List Token} (h : c.rest = t :: ts) :
    c.advance = ⟨t :: c.passed, ts, c.stop, c.crest⟩ := by
  simp [advance, h]

lemma current_advance (c : Cursor) : c.advance.current = c.next := by
  obtain ⟨passed, rest, stop, crest⟩ := c
  cases rest <;> rfl

/-- A token that is no `stop` is not the end. -/
lemma rest_of_kind (h : c.current.kind ≠ .stop) : c.rest = c.current :: c.advance.rest := by
  rcases hr : c.rest with _ | ⟨t, ts⟩
  · simp [current, hr] at h
  · rw [current_cons hr, advance_cons hr]

/-- The kind of the first token, as a cursor shows it. -/
def headKind : List Token → Token.Kind
  | [] => .stop
  | t :: _ => t.kind

lemma kind_current (c : Cursor) : c.current.kind = headKind c.rest := by
  rcases h : c.rest with _ | ⟨t, ts⟩
  · simp [current, h, headKind]
  · rw [current_cons h, headKind]

/-- From one cursor to another over the tokens `w`. -/
structure Passes (c : Cursor) (w : List Token) (c' : Cursor) : Prop where
  rest : c.rest = w ++ c'.rest
  passed : c'.passed = w.reverse ++ c.passed
  stop : c'.stop = c.stop

namespace Passes

variable {c₁ c₂ c₃ : Cursor} {v w : List Token}

lemma refl (c : Cursor) : c.Passes [] c := ⟨rfl, rfl, rfl⟩

lemma trans (h : c₁.Passes v c₂) (k : c₂.Passes w c₃) : c₁.Passes (v ++ w) c₃ :=
  ⟨by rw [h.rest, k.rest, List.append_assoc],
    by rw [k.passed, h.passed, List.reverse_append, List.append_assoc], by rw [k.stop, h.stop]⟩

lemma advance (c : Cursor) : c.Passes (c.rest.take 1) c.advance := by
  obtain ⟨passed, rest, stop, crest⟩ := c
  cases rest <;> exact ⟨rfl, rfl, rfl⟩

lemma advance_of_kind (h : c.current.kind ≠ .stop) : c.Passes [c.current] c.advance := by
  have := advance c
  rw [rest_of_kind h] at this
  exact this

lemma of_kind {k : Token.Kind} (h : c.current.kind = k) (hk : k ≠ .stop) :
    c.Passes [c.current] c.advance :=
  advance_of_kind (h ▸ hk)

lemma opened (h : c₁.Passes w c₂) (depth : Nat) (t : Token) : c₁.Passes w (c₂.opened depth t) :=
  ⟨by rw [rest_opened, h.rest], by rw [passed_opened, h.passed], by rw [stop_opened, h.stop]⟩

lemma length_lt (h : c₁.Passes w c₂) (hw : w ≠ []) : c₂.rest.length < c₁.rest.length := by
  rw [h.rest, List.length_append]
  have := List.length_pos_iff.2 hw
  omega

end Passes

end Cursor

namespace Builder

open Reckon.Action

/-! ### The small steps -/

section

variable {α : Type} {c : Cursor}

lemma current_bind (f : Token → Builder α) : (current >>= f) c = f c.current c := rfl

lemma advance_bind (f : Token → Builder α) : (advance >>= f) c = f c.current c.advance := rfl

lemma discard_bind (f : Unit → Builder α) :
    (discard advance >>= f : Builder α) c = f () c.advance := rfl

lemma rounds_bind (f : List Token → Builder α) :
    (rounds >>= f) c = f (⟨.stop, "", c.stop⟩ :: c.rest) c := rfl

lemma enter_eq (limit : Int) (depth : Nat) (t : Token) :
    enter limit depth t c =
      if limit < depth + 1 then .error ⟨.nesting limit, t.pos⟩ c
        else .ok () (c.opened depth t) := by
  unfold enter
  split <;> rfl

lemma not_lt_of_enter {limit : Int} {depth : Nat} {t : Token} {c' : Cursor}
    (h : enter limit depth t c = .ok () c') : ¬ limit < depth + 1 := by
  rw [enter_eq] at h
  split at h
  · cases h
  · next hd => exact hd

lemma enter_passes {limit : Int} {depth : Nat} {t : Token} {c' : Cursor}
    (h : enter limit depth t c = .ok () c') : c.Passes [] c' := by
  have hd := not_lt_of_enter h
  rw [enter_eq, if_neg hd] at h
  obtain rfl : c.opened depth t = c' := by simpa using h
  exact (Cursor.Passes.refl c).opened depth t

lemma close_of_closing {f : ParseFault} {t : Token} (h : c.current.kind = .closing) :
    close f t c = .ok () c.advance := by
  rw [close, current_bind, h]; rfl

lemma close_of_stop {f : ParseFault} {t : Token} (h : c.current.kind = .stop) :
    close f t c = .error ⟨.parse f, t.pos⟩ c := by
  rw [close, current_bind, h]; rfl

lemma close_of_other {f : ParseFault} {t : Token} (h : c.current.kind ≠ .closing)
    (h' : c.current.kind ≠ .stop) :
    close f t c = .error ⟨.parse c.misplaced, c.current.pos⟩ c := by
  rw [close, current_bind]
  cases hk : c.current.kind <;> first | contradiction | rfl

lemma close_eq_ok {f : ParseFault} {t : Token} {c' : Cursor} :
    close f t c = .ok () c' ↔ c.current.kind = .closing ∧ c.advance = c' := by
  by_cases h : c.current.kind = .closing
  · simp [close_of_closing h, h]
  by_cases h' : c.current.kind = .stop
  · simp [close_of_stop h', h']
  · simp [close_of_other h h', h]

lemma close_passes {f : ParseFault} {t : Token} {c' : Cursor} (h : close f t c = .ok () c') :
    c.current.kind = .closing ∧ c.Passes [c.current] c' := by
  obtain ⟨hk, rfl⟩ := close_eq_ok.1 h
  exact ⟨hk, .advance_of_kind (by simp [hk])⟩

lemma close_eq_error {f : ParseFault} {t : Token} {r : Refusal} {c' : Cursor} :
    close f t c = .error r c' ↔
      c = c' ∧ (c.current.kind = .stop ∧ r = ⟨.parse f, t.pos⟩ ∨
        c.current.kind ≠ .closing ∧ c.current.kind ≠ .stop ∧
          r = ⟨.parse c.misplaced, c.current.pos⟩) := by
  by_cases h : c.current.kind = .closing
  · simp [close_of_closing h, h]
  by_cases h' : c.current.kind = .stop
  · simp [close_of_stop h', h', and_comm, eq_comm]
  · simp [close_of_other h h', h, h', and_comm, eq_comm]

end

/-! ### The rules -/

/-- The end of an action of the builder. -/
abbrev Result (α : Type) := EStateM.Result Refusal Cursor α

variable (limit : Int)

mutual

inductive Reads : Rule → Nat → Cursor → Result Tree → Prop
  | sequence_one {d c t c'} (h : Reads (.chain elementLevel) d c (.ok t c'))
    (hc : c'.current.kind ≠ .comma) : Reads .sequence d c (.ok t c')
  | sequence_several {d c t c' ts c''} (h : Reads (.chain elementLevel) d c (.ok t c'))
    (hc : c'.current.kind = .comma) (hs : More d c' (.ok ts c'')) :
    Reads .sequence d c (.ok (.tuple (t :: ts)) c'')
  | sequence_first_refused {d c r c'} (h : Reads (.chain elementLevel) d c (.error r c')) :
    Reads .sequence d c (.error r c')
  | sequence_later_refused {d c t c' r c''} (h : Reads (.chain elementLevel) d c (.ok t c'))
    (hc : c'.current.kind = .comma) (hs : More d c' (.error r c'')) :
    Reads .sequence d c (.error r c'')
  | chain {least d c l c' res} (h : Reads .signed d c (.ok l c')) (hs : Climbs least d l c' res) :
    Reads (.chain least) d c res
  | chain_refused {least d c r c'} (h : Reads .signed d c (.error r c')) :
    Reads (.chain least) d c (.error r c')
  | signed {op d c c' t c''} (hk : c.current.kind = .unary op)
    (he : enter limit d c.current c.advance = .ok () c')
    (h : Reads .signed (d + 1) c' (.ok t c'')) :
    Reads .signed d c (.ok (.unary op t) c'')
  | signed_deep {op d c r c'} (hk : c.current.kind = .unary op)
    (he : enter limit d c.current c.advance = .error r c') : Reads .signed d c (.error r c')
  | signed_refused {op d c c' r c''} (hk : c.current.kind = .unary op)
    (he : enter limit d c.current c.advance = .ok () c')
    (h : Reads .signed (d + 1) c' (.error r c'')) : Reads .signed d c (.error r c'')
  | unsigned {d c res} (hk : ∀ op, c.current.kind ≠ .unary op) (h : Reads .primary d c res) :
    Reads .signed d c res
  | literal {d c v} (h : literal? c.current = some (.ok v)) :
    Reads .primary d c (.ok (.literal v) c.advance)
  | literal_fault {d c f} (h : literal? c.current = some (.error f)) :
    Reads .primary d c (.error ⟨.fault f, c.current.pos⟩ c)
  | name {d c} (hk : c.current.kind = .name) (hn : c.next.kind ≠ .opening) :
    Reads .primary d c (.ok (.name c.current.text) c.advance)
  | primary_call {d c res} (hk : c.current.kind = .name) (hn : c.next.kind = .opening)
    (h : Reads .call d c res) : Reads .primary d c res
  | primary_group {d c res} (hk : c.current.kind = .opening) (h : Reads .group d c res) :
    Reads .primary d c res
  | misplaced {d c} (hl : literal? c.current = none) (ho : c.current.kind ≠ .opening)
    (hn : c.current.kind ≠ .name) :
    Reads .primary d c (.error ⟨.parse c.misplaced, c.current.pos⟩ c)
  | unit {d c} (hc : c.advance.current.kind = .closing) :
    Reads .group d c (.ok (.literal .empty) c.advance.advance)
  | group {d c c' t c'' c₃} (hc : c.advance.current.kind ≠ .closing)
    (he : enter limit d c.current c.advance = .ok () c')
    (h : Reads .sequence (d + 1) c' (.ok t c''))
    (hend : close .unmatchedOpen c.current c'' = .ok () c₃) : Reads .group d c (.ok t c₃)
  | group_deep {d c r c'} (hc : c.advance.current.kind ≠ .closing)
    (he : enter limit d c.current c.advance = .error r c') : Reads .group d c (.error r c')
  | group_refused {d c c' r c''} (hc : c.advance.current.kind ≠ .closing)
    (he : enter limit d c.current c.advance = .ok () c')
    (h : Reads .sequence (d + 1) c' (.error r c'')) : Reads .group d c (.error r c'')
  | group_open {d c c' t c'' r c₃} (hc : c.advance.current.kind ≠ .closing)
    (he : enter limit d c.current c.advance = .ok () c')
    (h : Reads .sequence (d + 1) c' (.ok t c''))
    (hend : close .unmatchedOpen c.current c'' = .error r c₃) : Reads .group d c (.error r c₃)
  | call {d c c' ts c'' c₃} (he : enter limit d c.advance.current c.advance.advance = .ok () c')
    (h : Arguments (d + 1) c' (.ok ts c''))
    (hend : close (.unmatchedCall c.current.text) c.advance.current c'' = .ok () c₃) :
    Reads .call d c (.ok (.call c.current.text ts) c₃)
  | call_deep {d c r c'} (he : enter limit d c.advance.current c.advance.advance = .error r c') :
    Reads .call d c (.error r c')
  | call_refused {d c c' r c''} (he : enter limit d c.advance.current c.advance.advance = .ok () c')
    (h : Arguments (d + 1) c' (.error r c'')) : Reads .call d c (.error r c'')
  | call_open {d c c' ts c'' r c₃}
    (he : enter limit d c.advance.current c.advance.advance = .ok () c')
    (h : Arguments (d + 1) c' (.ok ts c''))
    (hend : close (.unmatchedCall c.current.text) c.advance.current c'' = .error r c₃) :
    Reads .call d c (.error r c₃)

/-- Further elements, each after a comma. -/
inductive More : Nat → Cursor → Result (List Tree) → Prop
  | none {d c} (hc : c.current.kind ≠ .comma) : More d c (.ok [] c)
  | some {d c t c' ts c''} (hc : c.current.kind = .comma)
    (h : Reads (.chain elementLevel) d c.advance (.ok t c')) (hs : More d c' (.ok ts c'')) :
    More d c (.ok (t :: ts) c'')
  | first_refused {d c r c'} (hc : c.current.kind = .comma)
    (h : Reads (.chain elementLevel) d c.advance (.error r c')) : More d c (.error r c')
  | later_refused {d c t c' r c''} (hc : c.current.kind = .comma)
    (h : Reads (.chain elementLevel) d c.advance (.ok t c')) (hs : More d c' (.error r c'')) :
    More d c (.error r c'')

/-- The binary operators of at least some level behind a tree. -/
inductive Climbs : Nat → Nat → Tree → Cursor → Result Tree → Prop
  | stop {least d l c} (h : ∀ op, c.current.kind = .binary op → op.level < least) :
    Climbs least d l c (.ok l c)
  | step {least op d l c r c' res} (hk : c.current.kind = .binary op) (hl : least ≤ op.level)
    (h : Operand op d c (.ok r c')) (hs : Climbs least d (.binary op l r) c' res) :
    Climbs least d l c res
  | refused {least op d l c r c'} (hk : c.current.kind = .binary op) (hl : least ≤ op.level)
    (h : Operand op d c (.error r c')) : Climbs least d l c (.error r c')

/-- A binary operator, which the cursor shows, and its right side. -/
inductive Operand : Binary → Nat → Cursor → Result Tree → Prop
  | left {op d c res} (ha : op.rightAssociative = false)
    (h : Reads (.chain (op.level + 1)) d c.advance res) : Operand op d c res
  | right {op d c c' res} (ha : op.rightAssociative)
    (he : enter limit d c.current c.advance = .ok () c')
    (h : Reads (.chain op.level) (d + 1) c' res) :
    Operand op d c res
  | deep {op d c r c'} (ha : op.rightAssociative)
    (he : enter limit d c.current c.advance = .error r c') : Operand op d c (.error r c')

/-- The arguments of a call. -/
inductive Arguments : Nat → Cursor → Result (List Tree) → Prop
  | none {d c} (hc : c.current.kind = .closing) : Arguments d c (.ok [] c)
  | some {d c t c' ts c''} (hc : c.current.kind ≠ .closing)
    (h : Reads (.chain elementLevel) d c (.ok t c')) (hs : More d c' (.ok ts c'')) :
    Arguments d c (.ok (t :: ts) c'')
  | first_refused {d c r c'} (hc : c.current.kind ≠ .closing)
    (h : Reads (.chain elementLevel) d c (.error r c')) : Arguments d c (.error r c')
  | later_refused {d c t c' r c''} (hc : c.current.kind ≠ .closing)
    (h : Reads (.chain elementLevel) d c (.ok t c')) (hs : More d c' (.error r c'')) :
    Arguments d c (.error r c'')

end

/-- If the action ends with a result, then with one that has the property. -/
def Holds {α : Type} (P : α → Cursor → Prop) : Result α → Prop
  | .ok a c => P a c
  | .error _ _ => True

/-! ### What is passed -/

/-- The cursor at which an action ends. -/
def cursor {α : Type} : Result α → Cursor
  | .ok _ c | .error _ c => c

/-- The cursor passes some tokens or none. -/
def Moves {α : Type} (c : Cursor) (res : Result α) : Prop :=
  ∃ w, c.Passes w (cursor res)

/-- The cursor passes some tokens or none, and not none if there is a result. -/
def Advances {α : Type} (c : Cursor) (res : Result α) : Prop :=
  ∃ w, c.Passes w (cursor res) ∧ ∀ a c', res = .ok a c' → w ≠ []

section

variable {α β : Type} {c c' : Cursor} {a : α} {w : List Token}

lemma Advances.moves {res : Result α} (h : Advances c res) : Moves c res :=
  h.imp fun _ h => h.1

lemma Moves.refused {r : Refusal} (h : Moves c (.error r c' : Result α)) :
    Advances c (.error r c' : Result β) :=
  h.imp fun _ h => ⟨h, nofun⟩

lemma Moves.ok {b : β} (h : Moves c (.ok a c')) : Moves c (.ok b c') := h

lemma Advances.ok {b : β} (h : Advances c (.ok a c')) : Advances c (.ok b c') :=
  h.imp fun _ h => ⟨h.1, fun _ _ _ => h.2 a c' rfl⟩

lemma Moves.trans {res : Result β} (h : Moves c (.ok a c')) (k : Moves c' res) : Moves c res := by
  obtain ⟨v, hv⟩ := h
  obtain ⟨w, hw⟩ := k
  exact ⟨v ++ w, hv.trans hw⟩

lemma Advances.then {res : Result β} (h : Advances c (.ok a c')) (k : Moves c' res) :
    Advances c res := by
  obtain ⟨v, hv, hne⟩ := h
  obtain ⟨w, hw⟩ := k
  refine ⟨v ++ w, hv.trans hw, fun _ _ _ => ?_⟩
  simp [hne a c' rfl]

lemma Moves.then {res : Result β} (h : Moves c (.ok a c')) (k : Advances c' res) :
    Advances c res := by
  obtain ⟨v, hv⟩ := h
  obtain ⟨w, hw, hne⟩ := k
  refine ⟨v ++ w, hv.trans hw, fun b c'' hres => ?_⟩
  simp [hne b c'' hres]

lemma moves_self {res : Result α} (h : cursor res = c) : Moves c res :=
  ⟨[], h ▸ .refl _⟩

lemma refused_self {r : Refusal} : Advances c (.error r c : Result α) :=
  ⟨[], .refl c, nofun⟩

lemma advance_moves : Moves c (.ok () c.advance) :=
  ⟨_, .advance c⟩

lemma advance_advances (h : c.current.kind ≠ .stop) : Advances c (.ok () c.advance) :=
  ⟨_, .advance_of_kind h, by simp⟩

lemma enter_moves {limit : Int} {d : Nat} {t : Token} {res : Result Unit}
    (h : enter limit d t c = res) : Moves c res := by
  rw [enter_eq] at h
  subst h
  split
  · exact moves_self rfl
  · exact ⟨[], (Cursor.Passes.refl c).opened d t⟩

lemma close_advances {f : ParseFault} {t : Token} {res : Result Unit} (h : close f t c = res) :
    Advances c res := by
  subst h
  cases h : close f t c with
  | ok a c' =>
    obtain ⟨hk, rfl⟩ := close_eq_ok.1 h
    exact advance_advances (by simp [hk])
  | error r c' =>
    obtain ⟨rfl, -⟩ := close_eq_error.1 h
    exact refused_self

end

variable {limit : Int}

mutual

lemma Reads.advances {r : Rule} {d : Nat} {c : Cursor} {res : Result Tree}
    (h : Reads limit r d c res) : Advances c res := by
  match h with
  | .sequence_one h hc => exact h.advances
  | .sequence_several h hc hs => exact (h.advances.then hs.moves).ok
  | .sequence_first_refused h => exact h.advances
  | .sequence_later_refused h hc hs => exact h.advances.then hs.moves.refused.moves
  | .chain h hs => exact h.advances.then hs.moves
  | .chain_refused h => exact h.advances
  | .signed hk he h => exact (advance_moves.trans (enter_moves he)).then h.advances.ok
  | .signed_deep hk he => exact (advance_moves.trans (enter_moves he)).refused
  | .signed_refused hk he h => exact (advance_moves.trans (enter_moves he)).then h.advances
  | .unsigned hk h => exact h.advances
  | .literal h =>
    refine (advance_advances fun hk => ?_).ok
    simp [literal?, hk] at h
  | .literal_fault h => exact refused_self
  | .name hk hn => exact (advance_advances (by simp [hk])).ok
  | .primary_call hk hn h => exact h.advances
  | .primary_group hk h => exact h.advances
  | .misplaced hl ho hn => exact refused_self
  | .unit hc => exact advance_moves.then (advance_advances (by simp [hc])).ok
  | .group hc he h hend =>
    exact (advance_moves.trans (enter_moves he)).then
      (h.advances.then (close_advances hend).moves).ok
  | .group_deep hc he => exact (advance_moves.trans (enter_moves he)).refused
  | .group_refused hc he h => exact (advance_moves.trans (enter_moves he)).then h.advances
  | .group_open hc he h hend =>
    exact (advance_moves.trans (enter_moves he)).then
      (h.advances.then (close_advances hend).moves.refused.moves)
  | .call he h hend =>
    exact (advance_moves.trans (advance_moves.trans (enter_moves he)) |>.trans h.moves).then
      (close_advances hend).ok
  | .call_deep he => exact (advance_moves.trans (advance_moves.trans (enter_moves he))).refused
  | .call_refused he h =>
    exact (advance_moves.trans (advance_moves.trans (enter_moves he)) |>.trans h.moves).refused
  | .call_open he h hend =>
    exact (advance_moves.trans (advance_moves.trans (enter_moves he)) |>.trans h.moves).then
      (close_advances hend).moves.refused

lemma More.moves {d : Nat} {c : Cursor} {res : Result (List Tree)} (h : More limit d c res) :
    Moves c res := by
  match h with
  | .none hc => exact moves_self rfl
  | .some hc h hs => exact advance_moves.trans (h.advances.moves.trans hs.moves).ok
  | .first_refused hc h => exact advance_moves.trans h.advances.moves.refused.moves
  | .later_refused hc h hs => exact advance_moves.trans (h.advances.moves.trans hs.moves)

lemma Climbs.moves {least d : Nat} {l : Tree} {c : Cursor} {res : Result Tree}
    (h : Climbs limit least d l c res) : Moves c res := by
  match h with
  | .stop h => exact moves_self rfl
  | .step hk hl h hs => exact h.advances.moves.trans hs.moves
  | .refused hk hl h => exact h.advances.moves

lemma Operand.advances {op : Binary} {d : Nat} {c : Cursor} {res : Result Tree}
    (h : Operand limit op d c res) : Advances c res := by
  match h with
  | .left ha h => exact advance_moves.then h.advances
  | .right ha he h => exact (advance_moves.trans (enter_moves he)).then h.advances
  | .deep ha he => exact (advance_moves.trans (enter_moves he)).refused

lemma Arguments.moves {d : Nat} {c : Cursor} {res : Result (List Tree)}
    (h : Arguments limit d c res) : Moves c res := by
  match h with
  | .none hc => exact moves_self rfl
  | .some hc h hs => exact (h.advances.moves.trans hs.moves).ok
  | .first_refused hc h => exact h.advances.moves.refused.moves
  | .later_refused hc h hs => exact h.advances.moves.trans hs.moves

end

/-! ### The rules under an allowance -/

/-- How many rules are active at once on one level of nesting, from a rule on: at most seven chains
stand inside each other, as the level of the operators rises from one to the next. -/
def load : Rule → Nat
  | .sequence => 11
  | .chain least => 4 + (8 - least)
  | .signed => 3
  | .primary => 2
  | .group | .call => 1

/-- How many rules are active at once from a rule at some depth on. -/
def demand (limit : Int) (r : Rule) (depth : Nat) : Nat :=
  load r + 11 * (limit.toNat - depth)

lemma Moves.length_le {α : Type} {c c' : Cursor} {a : α} (h : Moves c (.ok a c')) :
    c'.rest.length ≤ c.rest.length := by
  obtain ⟨w, hw⟩ := h
  rw [hw.rest, List.length_append]
  exact Nat.le_add_left ..

lemma Advances.length_lt {α : Type} {c c' : Cursor} {a : α} (h : Advances c (.ok a c')) :
    c'.rest.length < c.rest.length := by
  obtain ⟨w, hw, hne⟩ := h
  exact hw.length_lt (hne a c' rfl)

lemma more_elements {d : Nat} {element : Builder Tree}
    (h : ∀ c, Reads limit (.chain elementLevel) d c (element c)) (rounds : List Token) (c : Cursor)
    (hc : c.rest.length < rounds.length) : More limit d c (elements element rounds c) := by
  induction rounds generalizing c with
  | nil => cases hc
  | cons _ rounds ih =>
    rw [elements, current_bind]
    split
    · next hk =>
      rw [discard_bind]
      have he := h c.advance
      cases hx : element c.advance with
      | error r c' =>
        rw [bind_of_error hx]
        exact .first_refused hk (hx ▸ he)
      | ok t c' =>
        rw [hx] at he
        rw [bind_of_ok hx]
        have hlt : c'.rest.length < rounds.length := by
          have h₁ := he.advances.length_lt
          have h₂ := (advance_moves (c := c)).length_le
          rw [List.length_cons] at hc
          omega
        have hm := ih c' hlt
        cases hy : elements element rounds c' with
        | error r c'' =>
          rw [bind_of_error hy]
          exact .later_refused hk he (hy ▸ hm)
        | ok ts c'' =>
          rw [bind_of_ok hy]
          exact .some hk he (hy ▸ hm)
    · next hk => exact .none hk

lemma arguments_arguments {d : Nat} {element : Builder Tree}
    (h : ∀ c, Reads limit (.chain elementLevel) d c (element c)) (c : Cursor) :
    Arguments limit d c (arguments element c) := by
  rw [arguments, current_bind]
  split
  · next hk => exact .none hk
  · next hk =>
    have he := h c
    cases hx : element c with
    | error r c' =>
      rw [bind_of_error hx]
      exact .first_refused hk (hx ▸ he)
    | ok t c' =>
      rw [hx] at he
      rw [bind_of_ok hx, rounds_bind]
      have hs := more_elements h (⟨.stop, "", c'.stop⟩ :: c'.rest) c' (by simp)
      cases hy : elements element (⟨.stop, "", c'.stop⟩ :: c'.rest) c' with
      | error r c'' =>
        rw [bind_of_error hy]
        exact .later_refused hk he (hy ▸ hs)
      | ok ts c'' =>
        rw [bind_of_ok hy]
        exact .some hk he (hy ▸ hs)

lemma climbs_climb {least d : Nat} {right : Binary → Token → Builder Tree}
    (h : ∀ op c, least ≤ op.level → Operand limit op d c (right op c.current c.advance))
    (rounds : List Token) (l : Tree) (c : Cursor) (hc : c.rest.length < rounds.length) :
    Climbs limit least d l c (climb right least rounds l c) := by
  induction rounds generalizing l c with
  | nil => cases hc
  | cons _ rounds ih =>
    rw [climb, current_bind]
    cases hk : c.current.kind with
    | binary op =>
      by_cases hl : op.level < least
      · simp only [hl, if_true]
        refine .stop fun op' hk' => ?_
        rw [hk] at hk'
        cases hk'; exact hl
      · simp only [hl, if_false]
        have hl' := Nat.le_of_not_lt hl
        have ho := h op c hl'
        rw [advance_bind]
        cases hx : right op c.current c.advance with
        | error r c' =>
          rw [bind_of_error hx]
          exact .refused hk hl' (hx ▸ ho)
        | ok t c' =>
          rw [hx] at ho
          rw [bind_of_ok hx]
          refine .step hk hl' ho (ih _ c' ?_)
          have := ho.advances.length_lt
          rw [List.length_cons] at hc
          omega
    | _ => exact .stop fun op hop => by simp [hk] at hop

section

variable {active d : Nat}

lemma reads_sequence
    (h : ∀ c, Reads limit (.chain elementLevel) d c (rule limit active (.chain elementLevel) d c))
    (c : Cursor) : Reads limit .sequence d c (rule limit (active + 1) .sequence d c) := by
  have ht := h c
  rw [rule]
  cases hx : rule limit active (.chain elementLevel) d c with
  | error r c' =>
    rw [bind_of_error hx]
    exact .sequence_first_refused (hx ▸ ht)
  | ok t c' =>
    rw [hx] at ht
    rw [bind_of_ok hx, current_bind]
    split
    · next hk =>
      rw [rounds_bind]
      have hs := more_elements h (⟨.stop, "", c'.stop⟩ :: c'.rest) c' (by simp)
      cases hy : elements (rule limit active (.chain elementLevel) d)
          (⟨.stop, "", c'.stop⟩ :: c'.rest) c' with
      | error r c'' =>
        rw [bind_of_error hy]
        exact .sequence_later_refused ht hk (hy ▸ hs)
      | ok ts c'' =>
        rw [bind_of_ok hy]
        exact .sequence_several ht hk (hy ▸ hs)
    · next hk => exact .sequence_one ht hk

lemma reads_chain {least : Nat} (hs : ∀ c, Reads limit .signed d c (rule limit active .signed d c))
    (hl : ∀ op : Binary, least ≤ op.level → op.rightAssociative = false → ∀ c,
      Reads limit (.chain (op.level + 1)) d c (rule limit active (.chain (op.level + 1)) d c))
    (hr : ∀ op : Binary, least ≤ op.level → op.rightAssociative → ¬ limit < d + 1 → ∀ c,
      Reads limit (.chain op.level) (d + 1) c (rule limit active (.chain op.level) (d + 1) c))
    (c : Cursor) : Reads limit (.chain least) d c (rule limit (active + 1) (.chain least) d c) := by
  have hl' := hs c
  rw [rule]
  cases hx : rule limit active .signed d c with
  | error r c' =>
    rw [bind_of_error hx]
    exact .chain_refused (hx ▸ hl')
  | ok l c' =>
    rw [bind_of_ok hx, rounds_bind]
    refine .chain (hx ▸ hl') (climbs_climb (fun op c hop => ?_) _ l c' (by simp))
    cases ha : op.rightAssociative with
    | false => exact .left ha (hl op hop ha _)
    | true =>
      simp only [if_true]
      cases he : enter limit d c.current c.advance with
      | error r c'' =>
        rw [bind_of_error he]
        exact .deep ha he
      | ok _ c'' =>
        rw [bind_of_ok he]
        exact .right ha he (hr op hop ha (not_lt_of_enter he) _)

lemma reads_signed (hp : ∀ c, Reads limit .primary d c (rule limit active .primary d c))
    (hs : ¬ limit < d + 1 → ∀ c,
      Reads limit .signed (d + 1) c (rule limit active .signed (d + 1) c))
    (c : Cursor) : Reads limit .signed d c (rule limit (active + 1) .signed d c) := by
  rw [rule, current_bind]
  cases hk : c.current.kind with
  | unary op =>
    simp only
    rw [advance_bind]
    cases he : enter limit d c.current c.advance with
    | error r c' =>
      rw [bind_of_error he]
      exact .signed_deep hk he
    | ok _ c' =>
      rw [bind_of_ok he]
      have ht := hs (not_lt_of_enter he) c'
      cases hx : rule limit active .signed (d + 1) c' with
      | error r c'' =>
        rw [bind_of_error hx]
        exact .signed_refused hk he (hx ▸ ht)
      | ok t c'' =>
        rw [bind_of_ok hx]
        exact .signed hk he (hx ▸ ht)
  | _ => exact .unsigned (by simp [hk]) (hp c)

lemma reads_primary (hg : ∀ c, Reads limit .group d c (rule limit active .group d c))
    (hc : ∀ c, Reads limit .call d c (rule limit active .call d c)) (c : Cursor) :
    Reads limit .primary d c (rule limit (active + 1) .primary d c) := by
  rw [rule, get_bind]
  cases hl : literal? c.current with
  | some l =>
    cases l with
    | ok v => exact .literal hl
    | error f => exact .literal_fault hl
  | none =>
    cases hk : c.current.kind with
    | opening => exact .primary_group hk (hg c)
    | name =>
      simp only
      split
      · next hn => exact .primary_call hk hn (hc c)
      · next hn => exact .name hk hn
    | _ => exact .misplaced hl (by simp [hk]) (by simp [hk])

lemma reads_group
    (h : ¬ limit < d + 1 → ∀ c,
      Reads limit .sequence (d + 1) c (rule limit active .sequence (d + 1) c))
    (c : Cursor) : Reads limit .group d c (rule limit (active + 1) .group d c) := by
  rw [rule, advance_bind, current_bind]
  split
  · next hc => exact .unit hc
  · next hc =>
    cases he : enter limit d c.current c.advance with
    | error r c' =>
      rw [bind_of_error he]
      exact .group_deep hc he
    | ok _ c' =>
      rw [bind_of_ok he]
      have ht := h (not_lt_of_enter he) c'
      cases hx : rule limit active .sequence (d + 1) c' with
      | error r c'' =>
        rw [bind_of_error hx]
        exact .group_refused hc he (hx ▸ ht)
      | ok t c'' =>
        rw [hx] at ht
        rw [bind_of_ok hx]
        cases hend : close .unmatchedOpen c.current c'' with
        | error r c₃ =>
          rw [bind_of_error hend]
          exact .group_open hc he ht hend
        | ok _ c₃ =>
          rw [bind_of_ok hend]
          exact .group hc he ht hend

lemma reads_call
    (h : ¬ limit < d + 1 → ∀ c, Reads limit (.chain elementLevel) (d + 1) c
      (rule limit active (.chain elementLevel) (d + 1) c))
    (c : Cursor) : Reads limit .call d c (rule limit (active + 1) .call d c) := by
  rw [rule, advance_bind, advance_bind]
  cases he : enter limit d c.advance.current c.advance.advance with
  | error r c' =>
    rw [bind_of_error he]
    exact .call_deep he
  | ok _ c' =>
    rw [bind_of_ok he]
    have hs := arguments_arguments (h (not_lt_of_enter he)) c'
    cases hx : arguments (rule limit active (.chain elementLevel) (d + 1)) c' with
    | error r c'' =>
      rw [bind_of_error hx]
      exact .call_refused he (hx ▸ hs)
    | ok ts c'' =>
      rw [hx] at hs
      rw [bind_of_ok hx]
      cases hend : close (.unmatchedCall c.current.text) c.advance.current c'' with
      | error r c₃ =>
        rw [bind_of_error hend]
        exact .call_open he hs hend
      | ok _ c₃ =>
        rw [bind_of_ok hend]
        exact .call he hs hend

end

/-- A rule that is allowed as many active rules as it may need reads as it should. -/
theorem reads_rule (active : Nat) (r : Rule) (d : Nat) (c : Cursor)
    (h : demand limit r d ≤ active) :
    Reads limit r d c (rule limit active r d c) := by
  induction active generalizing r d c with
  | zero => cases r <;> simp [demand, load] at h
  | succ active ih =>
    cases r with
    | sequence =>
      simp only [demand, load] at h
      exact reads_sequence (fun c => ih _ d c (by simp only [demand, load, elementLevel]; omega)) c
    | chain least =>
      simp only [demand, load] at h
      refine reads_chain (fun c => ih _ d c (by simp only [demand, load]; omega)) ?_ ?_ c
      · intro op hop ha c
        have := Binary.level_of_left ha
        exact ih _ d c (by simp only [demand, load]; omega)
      · intro op hop ha hd c
        exact ih _ _ c (by simp only [demand, load]; omega)
    | signed =>
      simp only [demand, load] at h
      refine reads_signed (fun c => ih _ d c (by simp only [demand, load]; omega)) ?_ c
      exact fun hd c => ih _ _ c (by simp only [demand, load]; omega)
    | primary =>
      simp only [demand, load] at h
      refine reads_primary (fun c => ih _ d c (by simp only [demand, load]; omega)) ?_ c
      exact fun c => ih _ _ c (by simp only [demand, load]; omega)
    | group =>
      simp only [demand, load] at h
      exact reads_group (fun hd c => ih _ _ c (by simp only [demand, load]; omega)) c
    | call =>
      simp only [demand, load] at h
      exact reads_call (fun hd c => ih _ _ c (by simp only [demand, load, elementLevel]; omega)) c

/-! ### One end -/

section

variable {limit : Int}

mutual

-- What the cursor shows tells the constructors apart, and inner ends are the same by induction.
theorem Reads.unique {r : Rule} {d : Nat} {c : Cursor} {res : Result Tree}
    (h : Reads limit r d c res) : ∀ {res'}, Reads limit r d c res' → res = res' := by
  intro res' h'
  match h with
  | .literal hl | .literal_fault hl | .name hk hn | .misplaced hl ho hn =>
    cases h' <;> grind [literal?]
  | .signed_deep hk he | .unit hc | .group_deep hc he | .call_deep he => cases h' <;> grind
  | .sequence_one h hc | .sequence_first_refused h | .chain_refused h | .signed hk he h
  | .signed_refused hk he h | .unsigned hk h | .group hc he h hend | .group_refused hc he h
  | .group_open hc he h hend | .call he h hend | .call_refused he h | .call_open he h hend =>
    have ih := @h.unique
    cases h' <;> grind
  | .primary_call hk hn h | .primary_group hk h =>
    have ih := @h.unique
    cases h' <;> grind [literal?]
  | .sequence_several h hc hs | .sequence_later_refused h hc hs | .chain h hs =>
    have ih := @h.unique
    have ihs := @hs.unique
    cases h' <;> grind
termination_by structural h

lemma More.unique {d : Nat} {c : Cursor} {res : Result (List Tree)}
    (h : More limit d c res) : ∀ {res'}, More limit d c res' → res = res' := by
  intro res' h'
  match h with
  | .none hc => cases h' <;> grind
  | .first_refused hc h =>
    have ih := @h.unique
    cases h' <;> grind
  | .some hc h hs | .later_refused hc h hs =>
    have ih := @h.unique
    have ihs := @hs.unique
    cases h' <;> grind
termination_by structural h

lemma Climbs.unique {least d : Nat} {l : Tree} {c : Cursor} {res : Result Tree}
    (h : Climbs limit least d l c res) : ∀ {res'}, Climbs limit least d l c res' → res = res' := by
  intro res' h'
  match h with
  | .stop h => cases h' <;> grind
  | .refused hk hl h =>
    have ih := @h.unique
    cases h' <;> grind
  | .step hk hl h hs =>
    have ih := @h.unique
    have ihs := @hs.unique
    cases h' <;> grind
termination_by structural h

lemma Operand.unique {op : Binary} {d : Nat} {c : Cursor} {res : Result Tree}
    (h : Operand limit op d c res) : ∀ {res'}, Operand limit op d c res' → res = res' := by
  intro res' h'
  match h with
  | .deep ha he => cases h' <;> grind
  | .left ha h | .right ha he h =>
    have ih := @h.unique
    cases h' <;> grind
termination_by structural h

lemma Arguments.unique {d : Nat} {c : Cursor} {res : Result (List Tree)}
    (h : Arguments limit d c res) : ∀ {res'}, Arguments limit d c res' → res = res' := by
  intro res' h'
  match h with
  | .none hc => cases h' <;> grind
  | .first_refused hc h =>
    have ih := @h.unique
    cases h' <;> grind
  | .some hc h hs | .later_refused hc h hs =>
    have ih := @h.unique
    have ihs := @hs.unique
    cases h' <;> grind
termination_by structural h

end

end

/-! ### All the tokens -/

theorem rule_eq_iff (limit : Int) (c : Cursor) (res : Result Tree) :
    rule limit (allowance limit) .sequence 0 c = res ↔ Reads limit .sequence 0 c res := by
  have h : Reads limit .sequence 0 c (rule limit (allowance limit) .sequence 0 c) :=
    reads_rule _ _ _ c (by simp only [demand, load, allowance]; omega)
  constructor
  · rintro rfl
    exact h
  · exact h.unique

section

variable {limit : Int} {c c' : Cursor}

lemma whole_of_stop (limit : Int) (hc : c.current.kind = .stop) :
    whole limit c = .error ⟨.parse .nothing, c.current.pos⟩ c := by
  rw [whole, current_bind]
  simp only [hc, if_true]
  rfl

lemma whole_of_refused {r : Refusal} (hc : c.current.kind ≠ .stop)
    (h : Reads limit .sequence 0 c (.error r c')) : whole limit c = .error r c' := by
  rw [whole, current_bind]
  simp only [hc, if_false]
  rw [bind_of_error ((rule_eq_iff limit c _).2 h)]

lemma whole_of_read {t : Tree} (hc : c.current.kind ≠ .stop)
    (h : Reads limit .sequence 0 c (.ok t c')) (hc' : c'.current.kind = .stop) :
    whole limit c = .ok t c' := by
  rw [whole, current_bind]
  simp only [hc, if_false]
  rw [bind_of_ok ((rule_eq_iff limit c _).2 h), current_bind]
  simp only [hc']
  rfl

/-- The tokens are refused at once, in the middle or at what is left of them, or not at all. -/
lemma whole_cases (limit : Int) (c : Cursor) :
    c.current.kind = .stop ∧ whole limit c = .error ⟨.parse .nothing, c.current.pos⟩ c ∨
    (∃ r c', Reads limit .sequence 0 c (.error r c') ∧ whole limit c = .error r c') ∨
    ∃ t c', Reads limit .sequence 0 c (.ok t c') ∧
      (c'.current.kind ≠ .stop ∧
        (∃ f, (f = .unmatchedClose ∨ f = .assignment ∨ f = .trailing c'.current.text) ∧
          whole limit c = .error ⟨.parse f, c'.current.pos⟩ c') ∨
        c'.current.kind = .stop ∧ whole limit c = .ok t c') := by
  by_cases hc : c.current.kind = .stop
  · exact .inl ⟨hc, whole_of_stop limit hc⟩
  cases hx : rule limit (allowance limit) .sequence 0 c with
  | error r c' =>
    have h := (rule_eq_iff limit c _).1 hx
    exact .inr (.inl ⟨r, c', h, whole_of_refused hc h⟩)
  | ok t c' =>
    have h := (rule_eq_iff limit c _).1 hx
    refine .inr (.inr ⟨t, c', h, ?_⟩)
    by_cases hc' : c'.current.kind = .stop
    · exact .inr ⟨hc', whole_of_read hc h hc'⟩
    · refine .inl ⟨hc', ?_⟩
      rw [whole, current_bind]
      simp only [hc, if_false]
      rw [bind_of_ok hx, current_bind]
      cases hk : c'.current.kind with
      | stop => contradiction
      | closing => exact ⟨.unmatchedClose, .inl rfl, rfl⟩
      | assign => exact ⟨.assignment, .inr (.inl rfl), rfl⟩
      | _ => exact ⟨.trailing c'.current.text, .inr (.inr rfl), rfl⟩

end

end Builder

namespace Tree

open Builder

variable {limit : Int} {ts : List Token} {c : Cursor}

lemma kind_of_mem {k : Token} (h : k ∈ (Cursor.ofTokens ts).rest) : k.kind ≠ .stop := by
  have := List.all_takeWhile (p := (·.kind ≠ .stop)) (l := ts)
  exact of_decide_eq_true (List.all_eq_true.1 this k h)

/-- At a cursor in the tokens, none of which is a `stop`, nothing is left exactly at the end. -/
lemma stop_iff {w : List Token} (h : (Cursor.ofTokens ts).Passes w c) :
    c.current.kind = .stop ↔ c.rest = [] := by
  rcases hr : c.rest with _ | ⟨k, ks⟩
  · simp [Cursor.current, hr]
  · have hk : k ∈ (Cursor.ofTokens ts).rest := by simp [h.rest, hr]
    simp [Cursor.current_cons hr, kind_of_mem hk]

lemma build_eq_ok {source : Option String} {t : Tree} :
    build source limit ts = .ok t ↔
      ∃ c, Reads limit .sequence 0 (.ofTokens ts) (.ok t c) ∧ c.rest = [] := by
  constructor
  · intro h
    rcases whole_cases limit (.ofTokens ts) with
      ⟨-, hw⟩ | ⟨r, c, -, hw⟩ | ⟨u, c, hr, ⟨-, f, -, hw⟩ | ⟨hc, hw⟩⟩
    · simp [build, run, EStateM.run, hw] at h
    · simp [build, run, EStateM.run, hw] at h
    · simp [build, run, EStateM.run, hw] at h
    · have hu : u = t := by simpa [build, run, EStateM.run, hw] using h
      subst hu
      obtain ⟨w, hw, -⟩ := hr.advances
      exact ⟨c, hr, (stop_iff hw).1 hc⟩
  · rintro ⟨c, hr, hc⟩
    obtain ⟨w, hw, hne⟩ := hr.advances
    have hstart : (Cursor.ofTokens ts).current.kind ≠ .stop := by
      rw [Ne, stop_iff (.refl _)]
      intro h
      have := hw.rest
      simp [h] at this
      exact hne t c rfl this.1
    have hend := whole_of_read hstart hr ((stop_iff hw).2 hc)
    simp [build, run, EStateM.run, hend]

lemma build_of_refused {source : Option String} {r : Refusal}
    (h : Reads limit .sequence 0 (.ofTokens ts) (.error r c))
    (hne : (Cursor.ofTokens ts).rest ≠ []) : build source limit ts = .error (r.error source) := by
  have hstart := mt (stop_iff (.refl (.ofTokens ts))).1 hne
  simp [build, run, EStateM.run, whole_of_refused hstart h]

lemma build_error_cases {source : Option String} {e : Error}
    (h : build source limit ts = .error e) :
    (∃ f site, e = .parse f site) ∨
      ∃ r c, Reads limit .sequence 0 (.ofTokens ts) (.error r c) ∧ e = r.error source := by
  rcases whole_cases limit (.ofTokens ts) with
    ⟨-, hw⟩ | ⟨r, c, hr, hw⟩ | ⟨u, c, -, ⟨-, f, -, hw⟩ | ⟨-, hw⟩⟩
  · refine .inl ⟨.nothing, ⟨source, (Cursor.ofTokens ts).current.pos⟩, ?_⟩
    simpa [build, run, EStateM.run, hw, Refusal.error, eq_comm] using h
  · refine .inr ⟨r, c, hr, ?_⟩
    simpa [build, run, EStateM.run, hw, eq_comm] using h
  · refine .inl ⟨f, ⟨source, c.current.pos⟩, ?_⟩
    simpa [build, run, EStateM.run, hw, Refusal.error, eq_comm] using h
  · simp [build, run, EStateM.run, hw] at h

end Tree

end Reckon
