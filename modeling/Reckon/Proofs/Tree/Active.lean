import Reckon.Proofs.Limits.Environment
import Reckon.Proofs.Tree.Course
import Reckon.Proofs.Tree.Grammar

/-!
How many rules are active at once. On each level of nesting there are at most eleven: a sequence,
seven chains whose operators bind ever more tightly, a prefix operator, a primary, and the group
that opens the next level. An allowance of rules is used up exactly if more rules than it has are
active at some moment, so an allowance of eleven for each level never is, and under the cap on the
nesting that is less than what the stack holds.
-/

namespace Reckon

namespace Builder

open Reckon.Action
open Grammar (Begins)

/-! ### The rules of one level -/

section

variable {limit : Int} {start : Cursor} {n : Nat} {x y : Stage}

/-- How many more rules can become active in a part on its level of nesting. -/
def Part.spare : Part → Nat
  | .rule r => load r - 1
  | .more | .arguments => load (.chain elementLevel)
  | .climbs least _ => load (.chain least) - 1
  | .operand op => load (.chain op.level) - 1

/-- What becomes active was spare before. -/
lemma Starts.spare_le (h : Starts limit x y) :
    y.part.rules + y.part.spare + 11 * (limit.toNat - y.depth) ≤
      x.part.spare + 11 * (limit.toNat - x.depth) := by
  cases h with
  | climbs_first hk hl =>
    simp only [Part.rules, Part.spare, load]
    omega
  | operand_left ha =>
    have := Binary.level_of_left ha
    simp only [Part.rules, Part.spare, load]
    omega
  | signed _ he | group _ _ he | call _ he | operand_right _ _ he =>
    have := not_lt_of_enter he
    simp only [Part.rules, Part.spare, load, elementLevel]
    omega
  | _ => simp only [Part.rules, Part.spare, load, elementLevel]; omega

lemma Reached.spare_le (h : Reached limit start n x) :
    n + x.part.spare + 11 * (limit.toNat - x.depth) ≤ allowance limit := by
  induction h with
  | start => simp only [Part.spare, load, allowance]; omega
  | next h hs ih =>
    have := hs.spare_le
    omega

lemma Reached.active_le (h : Reached limit start n x) : n ≤ allowance limit := by
  have := h.spare_le
  omega

/-- The rule that became active last. -/
lemma Reached.exists_rule (h : Reached limit start n x) :
    ∃ r d c, Reached limit start n ⟨.rule r, d, c⟩ := by
  induction h with
  | start => exact ⟨_, _, _, .start⟩
  | @next n x y h hs ih =>
    obtain ⟨part, d, c⟩ := y
    cases part with
    | rule r => exact ⟨r, d, c, h.next hs⟩
    | _ => exact ih

end

/-! ### Allowances -/

section

variable {α β : Type} {c : Cursor}

/-- The end of an action that lacks rules. -/
def Lost : Result α → Prop
  | .ok .. => False
  | .error e _ => e.cause = .fault .rules

lemma lost_bind {x : Builder α} {f : α → Builder β} :
    Lost ((x >>= f) c) ↔ Lost (x c) ∨ ∃ a c', x c = .ok a c' ∧ Lost (f a c') := by
  cases h : x c with
  | error e c' => simp [bind_of_error h, Lost]
  | ok a c' =>
    rw [bind_of_ok h]
    constructor
    · exact fun h' => .inr ⟨a, c', rfl, h'⟩
    · rintro (h' | ⟨_, _, heq, h'⟩)
      · exact h'.elim
      · cases heq
        exact h'

lemma Lost.first {x : Builder α} {f : α → Builder β} (h : Lost (x c)) : Lost ((x >>= f) c) :=
  lost_bind.2 (.inl h)

lemma Lost.later {x : Builder α} {f : α → Builder β} {a : α} {c' : Cursor}
    (hx : Lost (x c) ∨ x c = .ok a c') (h : Lost (f a c')) : Lost ((x >>= f) c) :=
  lost_bind.2 (hx.imp_right fun he => ⟨a, c', he, h⟩)

lemma lost_map {x : Builder α} {f : α → β} : Lost ((x >>= fun a => pure (f a)) c) ↔ Lost (x c) := by
  rw [lost_bind]
  exact ⟨fun h => h.elim id fun ⟨_, _, _, h⟩ => h.elim, .inl⟩

lemma not_lost_close (f : ParseFault) (t : Token) : ¬ Lost (close f t c) := by
  intro h
  cases hx : close f t c with
  | ok a c' => rw [hx] at h; exact h
  | error e c' =>
    rw [hx] at h
    obtain ⟨-, ⟨-, rfl⟩ | ⟨-, -, rfl⟩⟩ := close_eq_error.1 hx <;> cases h

lemma not_lost_enter (limit : Int) (d : Nat) (t : Token) : ¬ Lost (enter limit d t c) := by
  rw [enter_eq]
  split
  · nofun
  · exact id

/-- The second action does what the first one does, where that does not lack rules. -/
def Covers (x y : Builder α) : Prop :=
  ∀ c, Lost (x c) ∨ x c = y c

namespace Covers

variable {x y : Builder α}

lemma refl (x : Builder α) : Covers x x :=
  fun _ => .inr rfl

lemma bind {f g : α → Builder β} (h : Covers x y) (hf : ∀ a, Covers (f a) (g a)) :
    Covers (x >>= f) (y >>= g) := by
  intro c
  rcases h c with h | h
  · exact .inl h.first
  cases hx : y c with
  | error e c' => exact .inr (by rw [bind_of_error (h.trans hx), bind_of_error hx])
  | ok a c' =>
    rcases hf a c' with hl | he
    · exact .inl (.later (.inr (h.trans hx)) hl)
    · exact .inr (by rw [bind_of_ok (h.trans hx), bind_of_ok hx, he])

lemma get {f g : Cursor → Builder α} (h : ∀ c, Covers (f c) (g c)) :
    Covers (get >>= f) (get >>= g) :=
  fun c => h c c

lemma ite {p : Prop} [Decidable p] {x' y' : Builder α} (h : Covers x y) (h' : Covers x' y') :
    Covers (if p then x else x') (if p then y else y') := by
  split
  · exact h
  · exact h'

end Covers

variable {element element' : Builder Tree}

lemma covers_elements (h : Covers element element') (rounds : List Token) :
    Covers (elements element rounds) (elements element' rounds) := by
  induction rounds with
  | nil => exact .refl _
  | cons t rounds ih =>
    refine .bind (.refl current) fun t => .ite ?_ (.refl _)
    exact .bind (.refl (discard advance)) fun _ => h.bind fun t => ih.bind fun ts => .refl _

lemma covers_arguments (h : Covers element element') :
    Covers (arguments element) (arguments element') := by
  refine .bind (.refl current) fun t => .ite (.refl _) (h.bind fun t => ?_)
  exact .bind (.refl rounds) fun ts => (covers_elements h ts).bind fun ts => .refl _

lemma covers_climb {right right' : Binary → Token → Builder Tree}
    (h : ∀ op t, Covers (right op t) (right' op t)) (least : Nat) (rounds : List Token) (l : Tree) :
    Covers (climb right least rounds l) (climb right' least rounds l) := by
  induction rounds generalizing l with
  | nil => exact .refl _
  | cons t rounds ih =>
    refine .bind (.refl current) fun t => ?_
    cases t.kind with
    | binary op =>
      refine .ite (.refl _) (.bind (.refl advance) fun t => ?_)
      exact (h op t).bind fun r => ih _
    | _ => exact .refl _

end

/-- The right side of the operator `op` that the token `t` is, in a chain. -/
def side (limit : Int) (active d : Nat) (op : Binary) (t : Token) : Builder Tree := do
  if op.rightAssociative then
    enter limit d t
    rule limit active (.chain op.level) (d + 1)
  else rule limit active (.chain (op.level + 1)) d

lemma rule_chain (limit : Int) (active least d : Nat) :
    rule limit (active + 1) (.chain least) d = (do
      let l ← rule limit active .signed d
      climb (side limit active d) least (← rounds) l) :=
  rfl

/-- With a larger allowance a rule does the same, unless it lacked rules. -/
lemma covers_rule (limit : Int) {n m : Nat} (hnm : n ≤ m) (r : Rule) (d : Nat) :
    Covers (rule limit n r d) (rule limit m r d) := by
  induction n generalizing m r d with
  | zero => exact fun c => .inl rfl
  | succ n ih =>
    obtain ⟨m, rfl⟩ : ∃ k, m = k + 1 := ⟨m - 1, by omega⟩
    have ih := @ih m (by omega)
    cases r with
    | sequence =>
      refine (ih _ _).bind fun t => .bind (.refl current) fun t => .ite ?_ (.refl _)
      exact .bind (.refl rounds) fun ts => (covers_elements (ih _ _) ts).bind fun ts => .refl _
    | chain least =>
      rw [rule_chain, rule_chain]
      refine (ih _ _).bind fun l => .bind (.refl rounds) fun ts =>
        covers_climb (fun op t => ?_) least ts l
      exact .ite (.bind (.refl (enter limit d t)) fun _ => ih _ _) (ih _ _)
    | signed =>
      refine .bind (.refl current) fun t => ?_
      cases t.kind with
      | unary op =>
        refine .bind (.refl advance) fun t => .bind (.refl (enter limit d t)) fun _ => ?_
        exact (ih _ _).bind fun t => .refl _
      | _ => exact ih _ _
    | primary =>
      refine .get fun c => ?_
      dsimp only
      cases literal? c.current with
      | some l => cases l <;> exact .refl _
      | none =>
        cases c.current.kind with
        | opening => exact ih _ _
        | name => exact .ite (ih _ _) (.refl _)
        | _ => exact .refl _
    | group =>
      refine .bind (.refl advance) fun t => .bind (.refl current) fun u => .ite (.refl _) ?_
      exact .bind (.refl (enter limit d t)) fun _ => (ih _ _).bind fun e => .refl _
    | call =>
      refine .bind (.refl advance) fun f => .bind (.refl advance) fun t => ?_
      exact .bind (.refl (enter limit d t)) fun _ => (covers_arguments (ih _ _)).bind fun args =>
        .refl _

section

variable {limit : Int} {n d : Nat} {r : Rule} {c c' : Cursor}

/-- A rule that does not lack rules reads as it should. -/
lemma reads_of_not_lost (h : ¬ Lost (rule limit n r d c)) :
    Reads limit r d c (rule limit n r d c) := by
  have hmax := covers_rule limit (Nat.le_max_left n (demand limit r d)) r d c
  rw [hmax.resolve_left h]
  exact reads_rule _ r d c (Nat.le_max_right _ _)

lemma reads_of_ok {t : Tree} (h : rule limit n r d c = .ok t c') :
    Reads limit r d c (.ok t c') := by
  rw [← h]
  exact reads_of_not_lost (by rw [h]; exact id)

lemma Reads.lost_or_eq {res : Result Tree} (h : Reads limit r d c res) (n : Nat) :
    Lost (rule limit n r d c) ∨ rule limit n r d c = res :=
  Classical.or_iff_not_imp_left.2 fun hl => (reads_of_not_lost hl).unique h

lemma operand_of_ok {op : Binary} {t : Tree}
    (h : side limit n d op c.current c.advance = .ok t c') : Operand limit op d c (.ok t c') := by
  rw [side] at h
  split at h
  · next ha =>
    obtain ⟨_, c₁, he, h⟩ := bind_eq_ok.1 h
    exact .right ha he (reads_of_ok h)
  · next ha => exact .left (by simpa using ha) (reads_of_ok h)

lemma Operand.lost_or_eq {op : Binary} {res : Result Tree} (h : Operand limit op d c res)
    (n : Nat) :
    Lost (side limit n d op c.current c.advance) ∨ side limit n d op c.current c.advance = res := by
  cases h with
  | left ha h =>
    simp only [side, ha, Bool.false_eq_true, if_false]
    exact h.lost_or_eq n
  | right ha he h =>
    simp only [side, ha, if_true]
    rw [bind_of_ok he]
    exact h.lost_or_eq n
  | deep ha he =>
    simp only [side, ha, if_true]
    exact .inr (bind_of_error he)

/-! ### What an allowance is used up by -/

section

variable {element : Builder Tree} {right : Binary → Token → Builder Tree} {t : Token}
  {rounds : List Token}

lemma elements_of_comma (hk : c.current.kind = .comma) :
    elements element (t :: rounds) c = (do
      let t ← element
      return t :: (← elements element rounds) : Builder (List Tree)) c.advance := by
  rw [elements, current_bind, if_pos hk, discard_bind]

lemma arguments_of_other (hk : c.current.kind ≠ .closing) :
    arguments element c = (do
      let t ← element
      return t :: (← elements element (← Builder.rounds)) : Builder (List Tree)) c := by
  rw [arguments, current_bind, if_neg hk]

lemma climb_of_binary {op : Binary} {least : Nat} {l : Tree} (hk : c.current.kind = .binary op)
    (hle : least ≤ op.level) :
    climb right least (t :: rounds) l c = (do
      let r ← right op c.current
      climb right least rounds (.binary op l r) : Builder Tree) c.advance := by
  rw [climb, current_bind]
  simp only [hk]
  rw [if_neg (Nat.not_lt.2 hle), advance_bind]

end

lemma literal_ne_rules {t : Token} : literal? t ≠ some (.error .rules) := by
  unfold literal?
  split <;> grind

/-- An allowance of so many rules that a rule uses up is used up by rules that are active in it. -/
def Spends (limit : Int) (start : Cursor) (n : Nat) : Prop :=
  ∀ {m r d c}, Reached limit start m ⟨.rule r, d, c⟩ → Begins r c → Lost (rule limit n r d c) →
    ∃ x, Reached limit start (m + n) x

namespace Spends

variable {start : Cursor} {m : Nat}

lemma elements (ih : Spends limit start n) {rounds : List Token}
    (h : Reached limit start m ⟨.more, d, c⟩) (hr : c.rest.length < rounds.length)
    (hl : Lost (elements (rule limit n (.chain elementLevel) d) rounds c)) :
    ∃ x, Reached limit start (m + 1 + n) x := by
  induction rounds generalizing c with
  | nil => cases hr
  | cons t rounds ih' =>
    by_cases hk : c.current.kind = .comma
    · rw [elements_of_comma hk] at hl
      rcases lost_bind.1 hl with hl | ⟨t, c', ht, hl⟩
      · exact ih (h.next (.more_first hk)) trivial hl
      · have ht := reads_of_ok ht
        obtain ⟨w, hw, -⟩ := ht.advances
        have hlt := ((Cursor.Passes.of_kind hk (by decide)).trans hw).length_lt (by simp)
        simp only [List.length_cons] at hr
        exact ih' (h.next (.more_later hk ht)) (by simp only [cursor] at hlt; omega) (lost_map.1 hl)
    · rw [Builder.elements, current_bind, if_neg hk] at hl
      exact hl.elim

lemma arguments (ih : Spends limit start n) (h : Reached limit start m ⟨.arguments, d, c⟩)
    (hl : Lost (arguments (rule limit n (.chain elementLevel) d) c)) :
    ∃ x, Reached limit start (m + 1 + n) x := by
  by_cases hk : c.current.kind = .closing
  · rw [Builder.arguments, current_bind, if_pos hk] at hl
    exact hl.elim
  · rw [arguments_of_other hk] at hl
    rcases lost_bind.1 hl with hl | ⟨t, c', ht, hl⟩
    · exact ih (h.next (.arguments_first hk)) trivial hl
    · rw [rounds_bind] at hl
      exact ih.elements (h.next (.arguments_later hk (reads_of_ok ht))) (by simp) (lost_map.1 hl)

lemma side (ih : Spends limit start n) {op : Binary} (hk : c.current.kind = .binary op)
    (h : Reached limit start m ⟨.operand op, d, c⟩)
    (hl : Lost (side limit n d op c.current c.advance)) :
    ∃ x, Reached limit start (m + 1 + n) x := by
  rw [Builder.side] at hl
  split at hl
  · next ha =>
    rcases lost_bind.1 hl with hl | ⟨_, c', he, hl⟩
    · exact absurd hl (not_lost_enter _ _ _)
    · exact ih (h.next (.operand_right hk ha he)) trivial hl
  · next ha => exact ih (h.next (.operand_left (by simpa using ha))) trivial hl

lemma climb (ih : Spends limit start n) {least : Nat} {rounds : List Token} {l : Tree}
    (h : Reached limit start m ⟨.climbs least l, d, c⟩) (hr : c.rest.length < rounds.length)
    (hl : Lost (climb (Builder.side limit n d) least rounds l c)) :
    ∃ x, Reached limit start (m + 1 + n) x := by
  induction rounds generalizing l c with
  | nil => cases hr
  | cons t rounds ih' =>
    rw [Builder.climb, current_bind] at hl
    cases hk : c.current.kind with
    | binary op =>
      simp only [hk] at hl
      split at hl
      · exact hl.elim
      · next hle =>
        rw [advance_bind] at hl
        have hle := Nat.le_of_not_lt hle
        rcases lost_bind.1 hl with hl | ⟨r, c', hr', hl⟩
        · exact ih.side hk (h.next (.climbs_first hk hle)) hl
        · have hop := operand_of_ok hr'
          obtain ⟨w, hw, hne⟩ := hop.advances
          have hlt := hw.length_lt (hne r c' rfl)
          simp only [List.length_cons] at hr
          exact ih' (h.next (.climbs_later hk hle hop)) (by simp only [cursor] at hlt; omega) hl
    | _ =>
      simp only [hk] at hl
      exact hl.elim

end Spends

-- By induction on the allowance: the rule that lacks rules begins another one, which
-- lacks one less.
lemma spends (limit : Int) (start : Cursor) (n : Nat) : Spends limit start n := by
  induction n with
  | zero => exact fun h _ _ => ⟨_, h⟩
  | succ n ih =>
    intro m r d c h hb hl
    rw [← Nat.add_assoc, Nat.add_right_comm]
    cases r with
    | sequence =>
      rw [rule] at hl
      rcases lost_bind.1 hl with hl | ⟨t, c', ht, hl⟩
      · exact ih (h.next .sequence_first) trivial hl
      rw [current_bind] at hl
      split at hl
      · next hk =>
        rw [rounds_bind] at hl
        exact ih.elements (h.next (.sequence_later (reads_of_ok ht) hk)) (by simp) (lost_map.1 hl)
      · exact hl.elim
    | chain least =>
      rw [rule_chain] at hl
      rcases lost_bind.1 hl with hl | ⟨l, c', ht, hl⟩
      · exact ih (h.next .chain_first) trivial hl
      · exact ih.climb (h.next (.chain_later (reads_of_ok ht))) (by simp) hl
    | signed =>
      rw [rule, current_bind] at hl
      cases hk : c.current.kind with
      | unary op =>
        simp only [hk, advance_bind] at hl
        rcases lost_bind.1 hl with hl | ⟨_, c', he, hl⟩
        · exact absurd hl (not_lost_enter _ _ _)
        · exact ih (h.next (.signed hk he)) trivial (lost_map.1 hl)
      | _ =>
        simp only [hk] at hl
        exact ih (h.next (.unsigned (by simp [hk]))) trivial hl
    | primary =>
      rw [rule, get_bind] at hl
      cases hlit : literal? c.current with
      | some v =>
        simp only [hlit] at hl
        cases v with
        | ok v => exact hl.elim
        | error f =>
          have hf : Refusal.Cause.fault f = .fault .rules := hl
          cases hf
          exact absurd hlit literal_ne_rules
      | none =>
        simp only [hlit] at hl
        cases hk : c.current.kind with
        | opening =>
          simp only [hk] at hl
          exact ih (h.next (.primary_group hk)) hk hl
        | name =>
          simp only [hk] at hl
          split at hl
          · next hn => exact ih (h.next (.primary_call hk hn)) ⟨hk, hn⟩ hl
          · exact hl.elim
        | _ =>
          simp only [hk] at hl
          cases hl
    | group =>
      rw [rule, advance_bind, current_bind] at hl
      split at hl
      · exact hl.elim
      · next hc =>
        rcases lost_bind.1 hl with hl | ⟨_, c', he, hl⟩
        · exact absurd hl (not_lost_enter _ _ _)
        rcases lost_bind.1 hl with hl | ⟨e, c'', -, hl⟩
        · exact ih (h.next (.group hb hc he)) trivial hl
        · exact absurd (lost_map.1 hl) (not_lost_close _ _)
    | call =>
      rw [rule, advance_bind, advance_bind] at hl
      have hk : c.advance.current.kind = .opening := by rw [Cursor.current_advance]; exact hb.2
      rcases lost_bind.1 hl with hl | ⟨_, c', he, hl⟩
      · exact absurd hl (not_lost_enter _ _ _)
      rcases lost_bind.1 hl with hl | ⟨args, c'', -, hl⟩
      · exact ih.arguments (h.next (.call hk he)) hl
      · exact absurd (lost_map.1 hl) (not_lost_close _ _)

/-! ### Stages that lack rules -/

/-- With so many rules left, the stage lacks rules. -/
def Stage.Lost (limit : Int) (n : Nat) : Stage → Prop
  | ⟨.rule r, d, c⟩ => Builder.Lost (rule limit n r d c)
  | ⟨.more, d, c⟩ =>
    ∀ rounds, Builder.Lost (elements (rule limit n (.chain elementLevel) d) rounds c)
  | ⟨.climbs least l, d, c⟩ => ∀ rounds, Builder.Lost (climb (side limit n d) least rounds l c)
  | ⟨.operand op, d, c⟩ => Builder.Lost (side limit n d op c.current c.advance)
  | ⟨.arguments, d, c⟩ => Builder.Lost (arguments (rule limit n (.chain elementLevel) d) c)

-- Where something was read before the second stage begins, it is read in the same way or rules
-- are lacked there.
lemma Starts.lost {x y : Stage} (h : Starts limit x y) (hl : y.Lost limit n) :
    x.Lost limit (n + x.part.rules) := by
  cases h with
  | sequence_first | chain_first => exact .first hl
  | sequence_later h hc =>
    refine .later (h.lost_or_eq n) ?_
    rw [current_bind, if_pos hc]
    exact lost_map.2 (hl _)
  | chain_later h =>
    refine .later (h.lost_or_eq n) ?_
    exact hl _
  | signed hk he =>
    simp only [Stage.Lost, Part.rules]
    rw [rule, current_bind]
    simp only [hk]
    rw [advance_bind, bind_of_ok he]
    exact lost_map.2 hl
  | @unsigned d c hk =>
    simp only [Stage.Lost, Part.rules]
    rw [rule, current_bind]
    cases hk' : c.current.kind with
    | unary op => exact absurd hk' (hk op)
    | _ => exact hl
  | @primary_call d c hk hn =>
    have hlit : literal? c.current = none := by simp [literal?, hk]
    simp only [Stage.Lost, Part.rules]
    rw [rule, get_bind]
    simp only [hlit, hk]
    rw [if_pos hn]
    exact hl
  | @primary_group d c hk =>
    have hlit : literal? c.current = none := by simp [literal?, hk]
    simp only [Stage.Lost, Part.rules]
    rw [rule, get_bind]
    simp only [hlit, hk]
    exact hl
  | group hk hc he =>
    simp only [Stage.Lost, Part.rules]
    rw [rule, advance_bind, current_bind, if_neg hc, bind_of_ok he]
    exact .first hl
  | call hk he =>
    simp only [Stage.Lost, Part.rules]
    rw [rule, advance_bind, advance_bind, bind_of_ok he]
    exact .first hl
  | arguments_first hc =>
    rw [Stage.Lost, arguments_of_other hc]
    exact .first hl
  | arguments_later hc h =>
    rw [Stage.Lost, arguments_of_other hc]
    exact .later (h.lost_or_eq n) (lost_map.2 (hl _))
  | more_first hc =>
    rintro (_ | ⟨t, rounds⟩)
    · rfl
    rw [elements_of_comma hc]
    exact .first hl
  | more_later hc h =>
    rintro (_ | ⟨t, rounds⟩)
    · rfl
    rw [elements_of_comma hc]
    exact .later (h.lost_or_eq n) (lost_map.2 (hl _))
  | climbs_first hk hle =>
    rintro (_ | ⟨t, rounds⟩)
    · rfl
    rw [climb_of_binary hk hle]
    exact .first hl
  | climbs_later hk hle h =>
    rintro (_ | ⟨t, rounds⟩)
    · rfl
    rw [climb_of_binary hk hle]
    exact .later (h.lost_or_eq n) (hl _)
  | operand_left ha =>
    simp only [Stage.Lost, side, ha, Bool.false_eq_true, if_false]
    exact hl
  | operand_right hk ha he =>
    simp only [Stage.Lost, side, ha, if_true]
    rw [bind_of_ok he]
    exact hl

/-- Where a stage that is reached lacks rules with `k` of them left, the build does with those and
the active ones. -/
lemma Reached.lost {start : Cursor} {m k : Nat} {x : Stage} (h : Reached limit start m x)
    (hl : x.Lost limit k) (hn : m + k = n + x.part.rules) :
    Lost (rule limit n .sequence 0 start) := by
  induction h generalizing k with
  | start =>
    obtain rfl : k = n := by simp only [Part.rules] at hn; omega
    exact hl
  | next h hs ih => exact ih (hs.lost hl) (by omega)

end

/-! ### All the tokens -/

section

variable {limit : Int} {start : Cursor} {n : Nat}

/-- Rules are lacked under an allowance exactly if more rules than it has are active
at some moment. -/
lemma lost_iff :
    Lost (rule limit n .sequence 0 start) ↔ ∃ m x, Reached limit start m x ∧ n < m := by
  constructor
  · intro hl
    obtain ⟨x, hx⟩ := spends limit start n .start trivial hl
    exact ⟨_, x, hx, by omega⟩
  · rintro ⟨m, x, hx, hnm⟩
    obtain ⟨r, d, c, hr⟩ := hx.exists_rule
    have hl : Lost (rule limit (m - 1) .sequence 0 start) :=
      hr.lost (k := 0) rfl (by simp only [Part.rules]; omega)
    rcases covers_rule limit (Nat.le_sub_one_of_lt hnm) .sequence 0 start with h | h
    · exact h
    · rwa [h]

lemma not_lost_of_allowance (h : allowance limit ≤ n) :
    ¬ Lost (rule limit n .sequence 0 start) := by
  rw [lost_iff]
  rintro ⟨m, x, hx, hnm⟩
  have := hx.active_le
  omega

lemma rule_of_allowance (h : allowance limit ≤ n) :
    rule limit n .sequence 0 start = rule limit (allowance limit) .sequence 0 start :=
  ((covers_rule limit h .sequence 0 start).resolve_left
    (not_lost_of_allowance (Nat.le_refl _))).symm

end

end Builder

namespace Tree

open Builder

/-- The allowance of the builder is never used up, whatever the tokens are. -/
lemma build_ne_rules (source : Option String) (limit : Int) (ts : List Token) :
    build source limit ts ≠ .error (.fault .rules) := by
  intro h
  obtain ⟨f, site, he⟩ | ⟨⟨cause, pos⟩, c, hr, he⟩ := build_error_cases h
  · cases he
  have hl : ¬ Lost (rule limit (allowance limit) .sequence 0 (.ofTokens ts)) :=
    not_lost_of_allowance (Nat.le_refl _)
  rw [(rule_eq_iff limit _ _).2 hr] at hl
  cases cause <;> cases he
  exact hl rfl

end Tree

/-- The cap on the nesting leaves 89 frames of the stack or more to other things. -/
lemma Limits.allowance_cap_le {stack : Int} (hs : 112 ≤ stack) (requested : Int) :
    (Builder.allowance (cap stack requested).1 : Int) ≤ stack - 89 := by
  have := cap_le_ceiling stack requested
  rw [ceiling, Int.fdiv_eq_ediv_of_nonneg _ (by decide)] at this
  rw [Builder.allowance]
  omega

open Builder in
/-- **However the tokens are nested, at most eleven rules are active for each level that may be open
and for the outermost one**, an allowance of rules is used up exactly if more rules than it has are
active at some moment, and so the builder's own is not. Under a limit that is capped for a stack of
112 frames or more, all but 89 frames suffice for the rules. -/
theorem Tree.active_bounded (ts : List Token) :
    (∀ (limit : Int) n x, Reached limit (.ofTokens ts) n x → (n : Int) ≤ 11 * (max limit 0 + 1)) ∧
    (∀ (limit : Int) budget, Lost (rule limit budget .sequence 0 (.ofTokens ts)) ↔
      ∃ n x, Reached limit (.ofTokens ts) n x ∧ budget < n) ∧
    (∀ (limit : Int) (budget : Nat), 11 * (max limit 0 + 1) ≤ budget →
      ¬ Lost (rule limit budget .sequence 0 (.ofTokens ts)) ∧
      rule limit budget .sequence 0 (.ofTokens ts) =
      rule limit (allowance limit) .sequence 0 (.ofTokens ts)) ∧
    (∀ source limit, build source limit ts ≠ .error (.fault .rules)) ∧
    ∀ stack requested : Int, 112 ≤ stack →
      (∀ n x, Reached (Limits.cap stack requested).1 (.ofTokens ts) n x → (n : Int) ≤ stack - 89) ∧
      ∀ budget : Nat, stack - 89 ≤ budget →
        ¬ Lost (rule (Limits.cap stack requested).1 budget .sequence 0 (.ofTokens ts)) := by
  have hcast (limit : Int) : (allowance limit : Int) = 11 * (max limit 0 + 1) := by
    simp only [allowance]
    omega
  refine ⟨fun limit n x h => ?_, fun limit budget => lost_iff, fun limit budget h => ?_,
    fun source limit => build_ne_rules source limit ts,
    fun stack requested hs => ⟨fun n x h => ?_, fun budget h => ?_⟩⟩
  · have := h.active_le
    rw [← hcast]
    omega
  · have hle : allowance limit ≤ budget := by rw [← hcast] at h; omega
    exact ⟨not_lost_of_allowance hle, rule_of_allowance hle⟩
  · have := h.active_le
    have := Limits.allowance_cap_le hs requested
    omega
  · have := Limits.allowance_cap_le hs requested
    exact not_lost_of_allowance (by omega)

open Builder in
/-- In `a || a && a == a < a + a * ()` all the eleven rules of a level are active at once. -/
theorem Tree.active_bounded_stairs :
    let a : Token := ⟨.name, "a", 0⟩
    let ts : List Token := [a, ⟨.binary .or, "||", 0⟩, a, ⟨.binary .and, "&&", 0⟩, a,
      ⟨.binary .eq, "==", 0⟩, a, ⟨.binary (.order .lt), "<", 0⟩, a, ⟨.binary (.arith .add), "+", 0⟩,
      a, ⟨.binary (.arith .mul), "*", 0⟩, ⟨.opening, "(", 0⟩, ⟨.closing, ")", 0⟩]
    (∃ x, Reached 0 (.ofTokens ts) 11 x) ∧ ¬ Lost (rule 0 11 .sequence 0 (.ofTokens ts)) ∧
      ∀ n x, Reached (Limits.cap 112 64).1 (.ofTokens ts) n x → (n : Int) ≤ 23 := by
  intro a ts
  have h := active_bounded ts
  obtain ⟨n, x, hx, hn⟩ := (h.2.1 0 10).1 rfl
  have hle := h.1 0 n x hx
  obtain rfl : n = 11 := by omega
  exact ⟨⟨x, hx⟩, (h.2.2.1 0 11 (by decide)).1, (h.2.2.2.2 112 64 (by decide)).1⟩

end Reckon
