import Reckon.Proofs.Tree.Course
import Reckon.Proofs.Tree.Grammar

/-!
The limit of nesting is exact, and otherwise it cannot be seen. Two builds of the same tokens under
a lower and a higher limit go side by side until the lower one refuses, which it does at the first
token that opens a level beyond it; if there is none, they end alike. Levels are opened by certain
tokens alone, so that chains, tuples and arguments need none, however long they are.
-/

namespace Reckon

/-- The tokens that open levels: an opening parenthesis, a prefix operator and an operator that
groups to the right. -/
def Token.Kind.opens : Token.Kind → Bool
  | opening | unary _ => true
  | binary op => op.rightAssociative
  | _ => false

namespace Builder

open Reckon.Action
open Grammar (Begins body)

/-! ### Side by side -/

section

variable {α β : Type} {low high : Int} {c c' : Cursor} {d : Nat}

lemma Moves.passed_le {res : Result α} (h : Moves c res) :
    c.passed.length ≤ (cursor res).passed.length := by
  obtain ⟨w, hw⟩ := h
  rw [hw.passed, List.length_append]
  exact Nat.le_add_left ..

/-- What `P` says of the ends under the lower limit: the same end, or a refusal for the nesting that
does not come behind it. -/
def Follows (low : Int) (P : Result α → Prop) (res : Result α) : Prop :=
  P res ∨ ∃ pos c', P (.error ⟨.nesting low, pos⟩ c') ∧
    c'.passed.length ≤ (cursor res).passed.length

/-- A refusal of the first part is one of the whole. -/
lemma Follows.then {P : Result α → Prop} {Q : Result β → Prop} {res : Result α} {res' : Result β}
    (h : Follows low P res) (hle : (cursor res).passed.length ≤ (cursor res').passed.length)
    (hrefused : ∀ r c', P (.error r c') → Q (.error r c')) (hsame : P res → Follows low Q res') :
    Follows low Q res' := by
  rcases h with h | ⟨pos, c', h, hc⟩
  · exact hsame h
  · exact .inr ⟨pos, c', hrefused _ _ h, Nat.le_trans hc hle⟩

/-- The last part decides how the whole ends. -/
lemma Follows.last {P : Result α → Prop} {Q : Result β → Prop} {res : Result α} {res' : Result β}
    (h : Follows low P res) (hc : cursor res = cursor res')
    (hrefused : ∀ r c', P (.error r c') → Q (.error r c')) (hsame : P res → Q res') :
    Follows low Q res' :=
  h.then (hc ▸ Nat.le_refl _) hrefused fun h => .inl (hsame h)

lemma follows_enter (hle : low ≤ high) {t : Token} {res : Result Unit}
    (h : enter high d t c = res) : Follows low (enter low d t c = ·) res := by
  rw [enter_eq] at h
  by_cases hd : low < d + 1
  · refine .inr ⟨t.pos, c, by rw [enter_eq, if_pos hd], ?_⟩
    subst h
    split <;> simp [cursor]
  · rw [if_neg (by omega)] at h
    exact .inl (by rw [enter_eq, if_neg hd, h])

lemma enter_higher (hle : low ≤ high) {t : Token} (h : enter low d t c = .ok () c') :
    enter high d t c = .ok () c' := by
  have hd := not_lt_of_enter h
  rw [enter_eq, if_neg hd] at h
  rw [enter_eq, if_neg (by omega), h]

end

section

variable {low high : Int}

mutual

-- By induction on the build under the higher limit: each part is followed, and the first one that
-- is refused under the lower limit refuses the whole.
lemma follows_reads (hle : low ≤ high) {r : Rule} {d : Nat} {c : Cursor} {res : Result Tree}
    (h : Reads high r d c res) : Follows low (Reads low r d c) res := by
  match h with
  | .sequence_one h hc =>
    exact (follows_reads hle h).last rfl (fun _ _ => .sequence_first_refused) fun h =>
      .sequence_one h hc
  | .sequence_several h hc hs =>
    refine (follows_reads hle h).then hs.moves.passed_le (fun _ _ => .sequence_first_refused)
      fun h => ?_
    exact (follows_more hle hs).last rfl (fun _ _ => .sequence_later_refused h hc)
      (.sequence_several h hc)
  | .sequence_first_refused h =>
    exact (follows_reads hle h).last rfl (fun _ _ => .sequence_first_refused)
      .sequence_first_refused
  | .sequence_later_refused h hc hs =>
    refine (follows_reads hle h).then hs.moves.passed_le (fun _ _ => .sequence_first_refused)
      fun h => ?_
    exact (follows_more hle hs).last rfl (fun _ _ => .sequence_later_refused h hc)
      (.sequence_later_refused h hc)
  | .chain h hs =>
    refine (follows_reads hle h).then hs.moves.passed_le (fun _ _ => .chain_refused) fun h => ?_
    exact (follows_climbs hle hs).last rfl (fun _ _ => .chain h) (.chain h)
  | .chain_refused h =>
    exact (follows_reads hle h).last rfl (fun _ _ => .chain_refused) .chain_refused
  | .signed hk he h =>
    refine (follows_enter hle he).then h.advances.moves.passed_le (fun _ _ => .signed_deep hk)
      fun he => ?_
    exact (follows_reads hle h).last rfl (fun _ _ => .signed_refused hk he) (.signed hk he)
  | .signed_deep hk he =>
    exact (follows_enter hle he).last rfl (fun _ _ => .signed_deep hk) (.signed_deep hk)
  | .signed_refused hk he h =>
    refine (follows_enter hle he).then h.advances.moves.passed_le (fun _ _ => .signed_deep hk)
      fun he => ?_
    exact (follows_reads hle h).last rfl (fun _ _ => .signed_refused hk he) (.signed_refused hk he)
  | .unsigned hk h => exact (follows_reads hle h).last rfl (fun _ _ => .unsigned hk) (.unsigned hk)
  | .literal h => exact .inl (.literal h)
  | .literal_fault h => exact .inl (.literal_fault h)
  | .name hk hn => exact .inl (.name hk hn)
  | .primary_call hk hn h =>
    exact (follows_reads hle h).last rfl (fun _ _ => .primary_call hk hn) (.primary_call hk hn)
  | .primary_group hk h =>
    exact (follows_reads hle h).last rfl (fun _ _ => .primary_group hk) (.primary_group hk)
  | .misplaced hl ho hn => exact .inl (.misplaced hl ho hn)
  | .unit hc => exact .inl (.unit hc)
  | .group hc he h hend =>
    have hm := h.advances.moves.trans (close_advances hend).moves
    refine (follows_enter hle he).then hm.passed_le (fun _ _ => .group_deep hc) fun he => ?_
    refine (follows_reads hle h).then (close_advances hend).moves.passed_le
      (fun _ _ => .group_refused hc he) ?_
    exact fun h => .inl (.group hc he h hend)
  | .group_deep hc he =>
    exact (follows_enter hle he).last rfl (fun _ _ => .group_deep hc) (.group_deep hc)
  | .group_refused hc he h =>
    refine (follows_enter hle he).then h.advances.moves.passed_le (fun _ _ => .group_deep hc)
      fun he => ?_
    exact (follows_reads hle h).last rfl (fun _ _ => .group_refused hc he) (.group_refused hc he)
  | .group_open hc he h hend =>
    have hm := h.advances.moves.trans (close_advances hend).moves
    refine (follows_enter hle he).then hm.passed_le (fun _ _ => .group_deep hc) fun he => ?_
    refine (follows_reads hle h).then (close_advances hend).moves.passed_le
      (fun _ _ => .group_refused hc he) ?_
    exact fun h => .inl (.group_open hc he h hend)
  | .call he h hend =>
    have hm := h.moves.trans (close_advances hend).moves
    refine (follows_enter hle he).then hm.passed_le (fun _ _ => .call_deep) fun he => ?_
    refine (follows_arguments hle h).then (close_advances hend).moves.passed_le
      (fun _ _ => .call_refused he) ?_
    exact fun h => .inl (.call he h hend)
  | .call_deep he => exact (follows_enter hle he).last rfl (fun _ _ => .call_deep) .call_deep
  | .call_refused he h =>
    refine (follows_enter hle he).then h.moves.passed_le (fun _ _ => .call_deep) fun he => ?_
    exact (follows_arguments hle h).last rfl (fun _ _ => .call_refused he) (.call_refused he)
  | .call_open he h hend =>
    have hm := h.moves.trans (close_advances hend).moves
    refine (follows_enter hle he).then hm.passed_le (fun _ _ => .call_deep) fun he => ?_
    refine (follows_arguments hle h).then (close_advances hend).moves.passed_le
      (fun _ _ => .call_refused he) ?_
    exact fun h => .inl (.call_open he h hend)

lemma follows_more (hle : low ≤ high) {d : Nat} {c : Cursor} {res : Result (List Tree)}
    (h : More high d c res) : Follows low (More low d c) res := by
  match h with
  | .none hc => exact .inl (.none hc)
  | .some hc h hs =>
    refine (follows_reads hle h).then hs.moves.passed_le (fun _ _ => .first_refused hc) fun h => ?_
    exact (follows_more hle hs).last rfl (fun _ _ => .later_refused hc h) (.some hc h)
  | .first_refused hc h =>
    exact (follows_reads hle h).last rfl (fun _ _ => .first_refused hc) (.first_refused hc)
  | .later_refused hc h hs =>
    refine (follows_reads hle h).then hs.moves.passed_le (fun _ _ => .first_refused hc) fun h => ?_
    exact (follows_more hle hs).last rfl (fun _ _ => .later_refused hc h) (.later_refused hc h)

lemma follows_climbs (hle : low ≤ high) {least d : Nat} {l : Tree} {c : Cursor} {res : Result Tree}
    (h : Climbs high least d l c res) : Follows low (Climbs low least d l c) res := by
  match h with
  | .stop h => exact .inl (.stop h)
  | .step hk hl h hs =>
    refine (follows_operand hle h).then hs.moves.passed_le (fun _ _ => .refused hk hl) fun h => ?_
    exact (follows_climbs hle hs).last rfl (fun _ _ => .step hk hl h) (.step hk hl h)
  | .refused hk hl h =>
    exact (follows_operand hle h).last rfl (fun _ _ => .refused hk hl) (.refused hk hl)

lemma follows_operand (hle : low ≤ high) {op : Binary} {d : Nat} {c : Cursor} {res : Result Tree}
    (h : Operand high op d c res) : Follows low (Operand low op d c) res := by
  match h with
  | .left ha h => exact (follows_reads hle h).last rfl (fun _ _ => .left ha) (.left ha)
  | .right ha he h =>
    refine (follows_enter hle he).then h.advances.moves.passed_le (fun _ _ => .deep ha) fun he => ?_
    exact (follows_reads hle h).last rfl (fun _ _ => .right ha he) (.right ha he)
  | .deep ha he => exact (follows_enter hle he).last rfl (fun _ _ => .deep ha) (.deep ha)

lemma follows_arguments (hle : low ≤ high) {d : Nat} {c : Cursor} {res : Result (List Tree)}
    (h : Arguments high d c res) : Follows low (Arguments low d c) res := by
  match h with
  | .none hc => exact .inl (.none hc)
  | .some hc h hs =>
    refine (follows_reads hle h).then hs.moves.passed_le (fun _ _ => .first_refused hc) fun h => ?_
    exact (follows_more hle hs).last rfl (fun _ _ => .later_refused hc h) (.some hc h)
  | .first_refused hc h =>
    exact (follows_reads hle h).last rfl (fun _ _ => .first_refused hc) (.first_refused hc)
  | .later_refused hc h hs =>
    refine (follows_reads hle h).then hs.moves.passed_le (fun _ _ => .first_refused hc) fun h => ?_
    exact (follows_more hle hs).last rfl (fun _ _ => .later_refused hc h) (.later_refused hc h)

end

end

/-! ### Under a higher limit -/

section

variable {low high : Int} {start c c' : Cursor} {d n : Nat} {x y : Stage}

lemma exists_reads (limit : Int) (r : Rule) (d : Nat) (c : Cursor) : ∃ res, Reads limit r d c res :=
  ⟨_, reads_rule (demand limit r d) r d c (Nat.le_refl _)⟩

lemma exists_operand (limit : Int) (op : Binary) (d : Nat) (c : Cursor) :
    ∃ res, Operand limit op d c res := by
  cases ha : op.rightAssociative with
  | false => exact (exists_reads limit _ d c.advance).imp fun _ => .left ha
  | true =>
    cases he : enter limit d c.current c.advance with
    | error r c' => exact ⟨_, .deep ha he⟩
    | ok a c' => exact (exists_reads limit _ (d + 1) c').imp fun _ => .right ha he

/-- What is not refused for the nesting ends alike under a higher limit. -/
lemma Reads.higher (hle : low ≤ high) {r : Rule} {res : Result Tree} (h : Reads low r d c res)
    (hne : ∀ pos c', res ≠ .error ⟨.nesting low, pos⟩ c') : Reads high r d c res := by
  obtain ⟨res', hr⟩ := exists_reads high r d c
  rcases follows_reads hle hr with h' | ⟨pos, c₁, h', -⟩
  · exact h.unique h' ▸ hr
  · exact absurd (h.unique h') (hne pos c₁)

lemma reads_higher (hle : low ≤ high) {r : Rule} {t : Tree} (h : Reads low r d c (.ok t c')) :
    Reads high r d c (.ok t c') :=
  h.higher hle nofun

lemma operand_higher (hle : low ≤ high) {op : Binary} {t : Tree}
    (h : Operand low op d c (.ok t c')) : Operand high op d c (.ok t c') := by
  obtain ⟨res, hr⟩ := exists_operand high op d c
  rcases follows_operand hle hr with h' | ⟨pos, c₁, h', -⟩
  · exact h.unique h' ▸ hr
  · cases h.unique h'

lemma Starts.higher (hle : low ≤ high) (h : Starts low x y) : Starts high x y := by
  cases h with
  | sequence_first => exact .sequence_first
  | sequence_later h hc => exact .sequence_later (reads_higher hle h) hc
  | chain_first => exact .chain_first
  | chain_later h => exact .chain_later (reads_higher hle h)
  | signed hk he => exact .signed hk (enter_higher hle he)
  | unsigned hk => exact .unsigned hk
  | primary_call hk hn => exact .primary_call hk hn
  | primary_group hk => exact .primary_group hk
  | group hk hc he => exact .group hk hc (enter_higher hle he)
  | call hk he => exact .call hk (enter_higher hle he)
  | arguments_first hc => exact .arguments_first hc
  | arguments_later hc h => exact .arguments_later hc (reads_higher hle h)
  | more_first hc => exact .more_first hc
  | more_later hc h => exact .more_later hc (reads_higher hle h)
  | climbs_first hk hl => exact .climbs_first hk hl
  | climbs_later hk hl h => exact .climbs_later hk hl (operand_higher hle h)
  | operand_left ha => exact .operand_left ha
  | operand_right hk ha he => exact .operand_right hk ha (enter_higher hle he)

lemma Reached.higher (hle : low ≤ high) (h : Reached low start n x) : Reached high start n x := by
  induction h with
  | start => exact .start
  | next h hs ih => exact .next ih (hs.higher hle)

end

/-! ### Levels -/

/-- In the build that starts at `start`, the token that the cursor `o` shows opens the level `k`. -/
def OpensLevel (limit : Int) (start : Cursor) (k : Nat) (o : Cursor) : Prop :=
  ∃ n x, Reached limit start n x ∧ Opens x o ∧ x.depth + 1 = k

section

variable {limit : Int} {start o : Cursor} {k n : Nat} {x y : Stage}

lemma Opens.opens (h : Opens x o) : o.current.kind.opens := by
  cases h with
  | signed hk => rw [hk]; rfl
  | group hk hc => rw [hk]; rfl
  | call hk => rw [hk]; rfl
  | operand hk ha => rw [hk]; exact ha

lemma Opens.ne_stop (h : Opens x o) : o.current.kind ≠ .stop := by
  intro hk
  have := h.opens
  simp [hk, Token.Kind.opens] at this

lemma Opens.passes (h : Opens x o) : ∃ w, x.cursor.Passes w o := by
  cases h with
  | signed | group | operand => exact ⟨[], .refl _⟩
  | call => exact ⟨_, .advance _⟩

lemma Opens.length_passed (h : Opens x o) : o.advance.passed.length = o.passed.length + 1 := by
  rw [(Cursor.Passes.advance_of_kind h.ne_stop).passed]
  rfl

/-- The openers behind the cursor. -/
def openers (c : Cursor) : Nat :=
  c.passed.countP (·.kind.opens)

lemma openers_le {c c' : Cursor} {w : List Token} (h : c.Passes w c') : openers c ≤ openers c' := by
  rw [openers, openers, h.passed, List.countP_append]
  exact Nat.le_add_left ..

lemma Opens.openers_lt (h : Opens x o) : openers x.cursor < openers o.advance := by
  obtain ⟨w, hw⟩ := h.passes
  have hadvance : openers o.advance = openers o + 1 := by
    rw [openers, (Cursor.Passes.advance_of_kind h.ne_stop).passed]
    exact List.countP_cons_of_pos h.opens
  rw [hadvance]
  exact Nat.lt_succ_of_le (openers_le hw)

/-- A stage is one level deeper than the one that it begins in, behind an opener, or as deep. -/
lemma Starts.deeper (h : Starts limit x y) :
    y.depth = x.depth ∨ y.depth = x.depth + 1 ∧ openers x.cursor < openers y.cursor := by
  have hopen {x : Stage} {o c' : Cursor} {d : Nat} {t : Token} (ho : Opens x o)
      (he : enter limit d t o.advance = .ok () c') : openers x.cursor < openers c' :=
    Nat.lt_of_lt_of_le ho.openers_lt (openers_le (enter_passes he))
  cases h with
  | signed hk he => exact .inr ⟨rfl, hopen (.signed hk) he⟩
  | group hk hc he => exact .inr ⟨rfl, hopen (.group hk hc) he⟩
  | call hk he => exact .inr ⟨rfl, hopen (.call hk) he⟩
  | operand_right hk ha he => exact .inr ⟨rfl, hopen (.operand hk ha) he⟩
  | _ => exact .inl rfl

/-- There are no more levels than openers. -/
lemma Reached.depth_le_openers (h : Reached limit start n x) :
    x.depth + openers start ≤ openers x.cursor := by
  induction h with
  | start => exact Nat.le_of_eq (Nat.zero_add _)
  | next h hs ih =>
    obtain ⟨w, hw⟩ := hs.passes
    have := openers_le hw
    rcases hs.deeper with hd | ⟨hd, hlt⟩ <;> omega

lemma OpensLevel.passes (h : OpensLevel limit start k o) : ∃ w, start.Passes w o.advance := by
  obtain ⟨n, x, hx, ho, -⟩ := h
  obtain ⟨u, hu⟩ := hx.passes
  obtain ⟨v, hv⟩ := ho.passes
  exact ⟨_, hu.trans (hv.trans (.advance o))⟩

lemma OpensLevel.le_openers (h : OpensLevel limit start k o) :
    k + openers start ≤ openers o.advance := by
  obtain ⟨n, x, hx, ho, rfl⟩ := h
  have := hx.depth_le_openers
  have := ho.openers_lt
  omega

end

/-! ### Refusals -/

section

variable {limit : Int} {start c c' o : Cursor} {d n : Nat} {x : Stage} {e : Refusal}

/-- The refusal is for the token that is passed last, which opens a level beyond the limit. -/
def Beyond (limit : Int) (start : Cursor) (e : Refusal) (c' : Cursor) : Prop :=
  ∃ o, OpensLevel limit start (limit.toNat + 1) o ∧ e.pos = o.current.pos ∧ c' = o.advance

/-- A refusal for the nesting is one beyond the limit. -/
def Located {α : Type} (limit : Int) (start : Cursor) : Result α → Prop
  | .ok .. => True
  | .error e c' => e.cause = .nesting limit → Beyond limit start e c'

lemma located_deep {α : Type} (hx : Reached limit start n x) (ho : Opens x o)
    (he : enter limit x.depth o.current o.advance = .error e c') :
    Located limit start (.error e c' : Result α) := by
  intro _
  have hd := hx.depth_le
  rw [enter_eq] at he
  split at he
  · cases he
    exact ⟨o, ⟨n, x, hx, ho, by omega⟩, rfl, rfl⟩
  · cases he

lemma located_parse {α : Type} {f : ParseFault} {pos : Nat} :
    Located limit start (.error ⟨.parse f, pos⟩ c' : Result α) :=
  nofun

lemma located_close {α : Type} {f : ParseFault} {t : Token} (h : close f t c = .error e c') :
    Located limit start (.error e c' : Result α) := by
  obtain ⟨-, ⟨-, rfl⟩ | ⟨-, -, rfl⟩⟩ := close_eq_error.1 h
  · exact located_parse
  · exact located_parse

mutual

-- The stage that refuses is reached through the one that it begins in.
lemma located_reads {n : Nat} {r : Rule} {d : Nat} {c : Cursor} {res : Result Tree}
    (h : Reads limit r d c res) (hb : Begins r c) (hx : Reached limit start n ⟨.rule r, d, c⟩) :
    Located limit start res := by
  match res, h with
  | .ok .., _ => trivial
  | .error .., .sequence_first_refused h => exact located_reads h trivial (hx.next .sequence_first)
  | .error .., .sequence_later_refused h hc hs =>
    exact located_more hs (hx.next (.sequence_later h hc))
  | .error .., .chain h hs => exact located_climbs hs (hx.next (.chain_later h))
  | .error .., .chain_refused h => exact located_reads h trivial (hx.next .chain_first)
  | .error .., .signed_deep hk he => exact located_deep hx (.signed hk) he
  | .error .., .signed_refused hk he h => exact located_reads h trivial (hx.next (.signed hk he))
  | .error .., .unsigned hk h => exact located_reads h trivial (hx.next (.unsigned hk))
  | .error .., .literal_fault h => nofun
  | .error .., .primary_call hk hn h =>
    exact located_reads h ⟨hk, hn⟩ (hx.next (.primary_call hk hn))
  | .error .., .primary_group hk h => exact located_reads h hk (hx.next (.primary_group hk))
  | .error .., .misplaced hl ho hn => exact located_parse
  | .error .., .group_deep hc he => exact located_deep hx (.group hb hc) he
  | .error .., .group_refused hc he h => exact located_reads h trivial (hx.next (.group hb hc he))
  | .error .., .group_open hc he h hend => exact located_close hend
  | .error .., .call_deep he =>
    rw [Begins, ← Cursor.current_advance] at hb
    exact located_deep hx (.call hb.2) he
  | .error .., .call_refused he h =>
    rw [Begins, ← Cursor.current_advance] at hb
    exact located_arguments h (hx.next (.call hb.2 he))
  | .error .., .call_open he h hend => exact located_close hend

lemma located_more {n d : Nat} {c : Cursor} {res : Result (List Tree)} (h : More limit d c res)
    (hx : Reached limit start n ⟨.more, d, c⟩) : Located limit start res := by
  match res, h with
  | .ok .., _ => trivial
  | .error .., .first_refused hc h => exact located_reads h trivial (hx.next (.more_first hc))
  | .error .., .later_refused hc h hs => exact located_more hs (hx.next (.more_later hc h))

lemma located_climbs {n least d : Nat} {l : Tree} {c : Cursor} {res : Result Tree}
    (h : Climbs limit least d l c res) (hx : Reached limit start n ⟨.climbs least l, d, c⟩) :
    Located limit start res := by
  match res, h with
  | .ok .., _ => trivial
  | .error .., .step hk hl h hs => exact located_climbs hs (hx.next (.climbs_later hk hl h))
  | .error .., .refused hk hl h => exact located_operand h hk (hx.next (.climbs_first hk hl))

lemma located_operand {n : Nat} {op : Binary} {d : Nat} {c : Cursor} {res : Result Tree}
    (h : Operand limit op d c res) (hk : c.current.kind = .binary op)
    (hx : Reached limit start n ⟨.operand op, d, c⟩) : Located limit start res := by
  match res, h with
  | .ok .., _ => trivial
  | .error .., .left ha h => exact located_reads h trivial (hx.next (.operand_left ha))
  | .error .., .right ha he h => exact located_reads h trivial (hx.next (.operand_right hk ha he))
  | .error .., .deep ha he => exact located_deep hx (.operand hk ha) he

lemma located_arguments {n d : Nat} {c : Cursor} {res : Result (List Tree)}
    (h : Arguments limit d c res) (hx : Reached limit start n ⟨.arguments, d, c⟩) :
    Located limit start res := by
  match res, h with
  | .ok .., _ => trivial
  | .error .., .first_refused hc h => exact located_reads h trivial (hx.next (.arguments_first hc))
  | .error .., .later_refused hc h hs => exact located_more hs (hx.next (.arguments_later hc h))

end

end

/-! ### Stages that are refused -/

/-- Under the limit the stage ends with the refusal. -/
def Stage.Refused (limit : Int) (x : Stage) : Result Unit → Prop
  | .ok .. => False
  | .error e c' =>
    match x.part with
    | .rule r => Reads limit r x.depth x.cursor (.error e c')
    | .more => More limit x.depth x.cursor (.error e c')
    | .climbs least l => Climbs limit least x.depth l x.cursor (.error e c')
    | .operand op => Operand limit op x.depth x.cursor (.error e c')
    | .arguments => Arguments limit x.depth x.cursor (.error e c')

section

variable {low high : Int} {start c c' o : Cursor} {n pos : Nat} {x y : Stage} {e : Refusal}

lemma Stage.Refused.passed_le (h : x.Refused low (.error e c')) :
    x.cursor.passed.length ≤ c'.passed.length := by
  obtain ⟨part, d, c⟩ := x
  cases part with
  | rule r => exact (Reads.advances h).moves.passed_le
  | more => exact (More.moves h).passed_le
  | climbs least l => exact (Climbs.moves h).passed_le
  | operand op => exact (Operand.advances h).moves.passed_le
  | arguments => exact (Arguments.moves h).passed_le

lemma Opens.refused (ho : Opens x o) (hd : low < x.depth + 1) :
    x.Refused low (.error ⟨.nesting low, o.current.pos⟩ o.advance) := by
  have he {d : Nat} (t : Token) (c : Cursor) (hd : low < d + 1) :
      enter low d t c = .error ⟨.nesting low, t.pos⟩ c := by rw [enter_eq, if_pos hd]
  cases ho with
  | signed hk => exact Reads.signed_deep hk (he _ _ hd)
  | group hk hc => exact Reads.group_deep hc (he _ _ hd)
  | call hk => exact Reads.call_deep (he _ _ hd)
  | operand hk ha => exact Operand.deep ha (he _ _ hd)

/-- A stage is refused with the one that begins in it, or before. -/
lemma Starts.refused (hle : low ≤ high) (hs : Starts high x y) (h : y.Refused low (.error e c')) :
    Follows low (x.Refused low) (.error e c') := by
  have hpassed := h.passed_le
  cases hs with
  | sequence_first => exact .inl (Reads.sequence_first_refused h)
  | sequence_later hr hc =>
    refine (follows_reads hle hr).then hpassed (fun _ _ h => Reads.sequence_first_refused h)
      fun hr => ?_
    exact .inl (Reads.sequence_later_refused hr hc h)
  | chain_first => exact .inl (Reads.chain_refused h)
  | chain_later hr =>
    refine (follows_reads hle hr).then hpassed (fun _ _ h => Reads.chain_refused h) fun hr => ?_
    exact .inl (Reads.chain hr h)
  | signed hk he =>
    refine (follows_enter hle he).then hpassed (fun _ _ h => Reads.signed_deep hk h) fun he => ?_
    exact .inl (Reads.signed_refused hk he h)
  | unsigned hk => exact .inl (Reads.unsigned hk h)
  | primary_call hk hn => exact .inl (Reads.primary_call hk hn h)
  | primary_group hk => exact .inl (Reads.primary_group hk h)
  | group hk hc he =>
    refine (follows_enter hle he).then hpassed (fun _ _ h => Reads.group_deep hc h) fun he => ?_
    exact .inl (Reads.group_refused hc he h)
  | call hk he =>
    refine (follows_enter hle he).then hpassed (fun _ _ h => Reads.call_deep h) fun he => ?_
    exact .inl (Reads.call_refused he h)
  | arguments_first hc => exact .inl (Arguments.first_refused hc h)
  | arguments_later hc hr =>
    refine (follows_reads hle hr).then hpassed (fun _ _ h => Arguments.first_refused hc h) fun hr =>
      ?_
    exact .inl (Arguments.later_refused hc hr h)
  | more_first hc => exact .inl (More.first_refused hc h)
  | more_later hc hr =>
    refine (follows_reads hle hr).then hpassed (fun _ _ h => More.first_refused hc h) fun hr => ?_
    exact .inl (More.later_refused hc hr h)
  | climbs_first hk hl => exact .inl (Climbs.refused hk hl h)
  | climbs_later hk hl ho =>
    refine (follows_operand hle ho).then hpassed (fun _ _ h => Climbs.refused hk hl h) fun ho => ?_
    exact .inl (Climbs.step hk hl ho h)
  | operand_left ha => exact .inl (Operand.left ha h)
  | operand_right hk ha he =>
    refine (follows_enter hle he).then hpassed (fun _ _ h => Operand.deep ha h) fun he => ?_
    exact .inl (Operand.right ha he h)

/-- If a stage that is reached is refused for the nesting, all is refused for it by then. -/
lemma Reached.refused (hle : low ≤ high) (hx : Reached high start n x)
    (h : x.Refused low (.error ⟨.nesting low, pos⟩ c')) :
    ∃ pos' c₁, Reads low .sequence 0 start (.error ⟨.nesting low, pos'⟩ c₁) ∧
      c₁.passed.length ≤ c'.passed.length := by
  induction hx generalizing pos c' with
  | start => exact ⟨pos, c', h, Nat.le_refl _⟩
  | next hx hs ih =>
    rcases hs.refused hle h with h | ⟨pos₁, c₁, h, hc⟩
    · exact ih h
    · obtain ⟨pos₂, c₂, h₂, hc₂⟩ := ih h
      exact ⟨pos₂, c₂, h₂, Nat.le_trans hc₂ hc⟩

/-- A level beyond the lower limit is refused under it, at its token or before. -/
lemma OpensLevel.refused {k : Nat} (hle : low ≤ high) (h : OpensLevel high start k o)
    (hk : low.toNat < k) :
    ∃ pos c₁, Reads low .sequence 0 start (.error ⟨.nesting low, pos⟩ c₁) ∧
      c₁.passed.length ≤ o.passed.length + 1 := by
  obtain ⟨n, x, hx, ho, rfl⟩ := h
  rw [← ho.length_passed]
  exact hx.refused hle (ho.refused (by omega))

/-- What is refused under the lower limit is refused at the first token that opens the
level beyond it. -/
lemma first_of_refused (hle : low ≤ high)
    (h : Reads low .sequence 0 start (.error ⟨.nesting low, pos⟩ c')) :
    ∃ o, OpensLevel high start (low.toNat + 1) o ∧ pos = o.current.pos ∧
      ∀ k o', OpensLevel high start k o' → low.toNat < k → o.passed.length ≤ o'.passed.length := by
  obtain ⟨o, ⟨n, x, hx, ho, hd⟩, hpos, rfl⟩ := located_reads h trivial .start rfl
  refine ⟨o, ⟨n, x, hx.higher hle, ho, hd⟩, hpos, fun k o' ho' hk => ?_⟩
  obtain ⟨pos₁, c₁, h₁, hc₁⟩ := ho'.refused hle hk
  cases h.unique h₁
  have := ho.length_passed
  omega

end

/-! ### All the tokens -/

section

variable {low high : Int} {c : Cursor} {ts : List Token}

lemma whole_congr
    (h : rule low (allowance low) .sequence 0 c = rule high (allowance high) .sequence 0 c) :
    whole low c = whole high c := by
  by_cases hc : c.current.kind = .stop
  · rw [whole_of_stop low hc, whole_of_stop high hc]
  rw [whole, whole, current_bind, current_bind]
  simp only [hc, if_false]
  cases hx : rule high (allowance high) .sequence 0 c with
  | error r c' => rw [bind_of_error hx, bind_of_error (h.trans hx)]
  | ok t c' => rw [bind_of_ok hx, bind_of_ok (h.trans hx)]

/-- Under the lower limit the tokens are built as under the higher one, or refused
for the nesting. -/
lemma build_follows (hle : low ≤ high) (ts : List Token) :
    (∀ source, Tree.build source low ts = Tree.build source high ts) ∨
      ∃ pos c', Reads low .sequence 0 (.ofTokens ts) (.error ⟨.nesting low, pos⟩ c') ∧
        ∀ source, Tree.build source low ts = .error (.nesting low ⟨source, pos⟩) := by
  have hsame (h : whole low (.ofTokens ts) = whole high (.ofTokens ts)) (source : Option String) :
      Tree.build source low ts = Tree.build source high ts := by
    rw [Tree.build, Tree.build, Tree.run, Tree.run, EStateM.run, EStateM.run, h]
  by_cases hne : (Cursor.ofTokens ts).rest = []
  · have hstop := (Tree.stop_iff (.refl (.ofTokens ts))).2 hne
    exact .inl (hsame (by rw [whole_of_stop low hstop, whole_of_stop high hstop]))
  have hhigh := (rule_eq_iff high (.ofTokens ts) _).1 rfl
  rcases follows_reads hle hhigh with h | ⟨pos, c', h, -⟩
  · exact .inl (hsame (whole_congr ((rule_eq_iff low _ _).2 h)))
  · exact .inr ⟨pos, c', h, fun source => Tree.build_of_refused h hne⟩

/-- A level that is opened is at most the number of tokens that can open one. -/
lemma OpensLevel.le_countP {limit : Int} {k : Nat} {o : Cursor}
    (h : OpensLevel limit (.ofTokens ts) k o) : k ≤ (body ts).countP (·.kind.opens) := by
  have hk := h.le_openers
  obtain ⟨w, hw⟩ := h.passes
  have hbody : body ts = w ++ o.advance.rest := hw.rest
  have hpassed : openers o.advance = w.countP (·.kind.opens) := by
    rw [openers, hw.passed, List.countP_append, List.countP_reverse]
    rfl
  rw [hbody, List.countP_append]
  omega

end

end Builder

open Builder (OpensLevel)
open Grammar (body)

end Reckon
