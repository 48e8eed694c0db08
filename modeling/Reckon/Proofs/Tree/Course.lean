import Reckon.Proofs.Tree.Reads

/-!
The course of a build. `Starts limit x y` says that the stage `y` begins while the stage `x` goes
on, a stage being a rule or one of the parts that rules are made of, at some depth of nesting and at
a cursor. So what is going on at some moment of a build is a path from its first stage, and
`Reached limit c n x` says that one leads to `x` with `n` rules on it. A level of nesting is opened
by a prefix operator, a group that is not empty, a call and the right side of an operator that
groups to the right, and by nothing else (`Opens`).
-/

namespace Reckon

namespace Builder

/-- A rule, or a part of one. -/
inductive Part
  | rule (r : Rule)
  | more
  | climbs (least : Nat) (l : Tree)
  | operand (op : Binary)
  | arguments

/-- How many rules a part is. -/
def Part.rules : Part → Nat
  | .rule _ => 1
  | _ => 0

structure Stage where
  part : Part
  depth : Nat
  cursor : Cursor

variable (limit : Int)

/-- The second stage begins while the first one goes on. -/
inductive Starts : Stage → Stage → Prop
  | sequence_first {d c} : Starts ⟨.rule .sequence, d, c⟩ ⟨.rule (.chain elementLevel), d, c⟩
  | sequence_later {d c t c'} (h : Reads limit (.chain elementLevel) d c (.ok t c'))
    (hc : c'.current.kind = .comma) : Starts ⟨.rule .sequence, d, c⟩ ⟨.more, d, c'⟩
  | chain_first {least d c} : Starts ⟨.rule (.chain least), d, c⟩ ⟨.rule .signed, d, c⟩
  | chain_later {least d c l c'} (h : Reads limit .signed d c (.ok l c')) :
    Starts ⟨.rule (.chain least), d, c⟩ ⟨.climbs least l, d, c'⟩
  | signed {op d c c'} (hk : c.current.kind = .unary op)
    (he : enter limit d c.current c.advance = .ok () c') :
    Starts ⟨.rule .signed, d, c⟩ ⟨.rule .signed, d + 1, c'⟩
  | unsigned {d c} (hk : ∀ op, c.current.kind ≠ .unary op) :
    Starts ⟨.rule .signed, d, c⟩ ⟨.rule .primary, d, c⟩
  | primary_call {d c} (hk : c.current.kind = .name) (hn : c.next.kind = .opening) :
    Starts ⟨.rule .primary, d, c⟩ ⟨.rule .call, d, c⟩
  | primary_group {d c} (hk : c.current.kind = .opening) :
    Starts ⟨.rule .primary, d, c⟩ ⟨.rule .group, d, c⟩
  | group {d c c'} (hk : c.current.kind = .opening) (hc : c.advance.current.kind ≠ .closing)
    (he : enter limit d c.current c.advance = .ok () c') :
    Starts ⟨.rule .group, d, c⟩ ⟨.rule .sequence, d + 1, c'⟩
  | call {d c c'} (hk : c.advance.current.kind = .opening)
    (he : enter limit d c.advance.current c.advance.advance = .ok () c') :
    Starts ⟨.rule .call, d, c⟩ ⟨.arguments, d + 1, c'⟩
  | arguments_first {d c} (hc : c.current.kind ≠ .closing) :
    Starts ⟨.arguments, d, c⟩ ⟨.rule (.chain elementLevel), d, c⟩
  | arguments_later {d c t c'} (hc : c.current.kind ≠ .closing)
    (h : Reads limit (.chain elementLevel) d c (.ok t c')) :
    Starts ⟨.arguments, d, c⟩ ⟨.more, d, c'⟩
  | more_first {d c} (hc : c.current.kind = .comma) :
    Starts ⟨.more, d, c⟩ ⟨.rule (.chain elementLevel), d, c.advance⟩
  | more_later {d c t c'} (hc : c.current.kind = .comma)
    (h : Reads limit (.chain elementLevel) d c.advance (.ok t c')) :
    Starts ⟨.more, d, c⟩ ⟨.more, d, c'⟩
  | climbs_first {least op d l c} (hk : c.current.kind = .binary op) (hl : least ≤ op.level) :
    Starts ⟨.climbs least l, d, c⟩ ⟨.operand op, d, c⟩
  | climbs_later {least op d l c r c'} (hk : c.current.kind = .binary op) (hl : least ≤ op.level)
    (h : Operand limit op d c (.ok r c')) :
    Starts ⟨.climbs least l, d, c⟩ ⟨.climbs least (.binary op l r), d, c'⟩
  | operand_left {op d c} (ha : op.rightAssociative = false) :
    Starts ⟨.operand op, d, c⟩ ⟨.rule (.chain (op.level + 1)), d, c.advance⟩
  | operand_right {op d c c'} (hk : c.current.kind = .binary op) (ha : op.rightAssociative)
    (he : enter limit d c.current c.advance = .ok () c') :
    Starts ⟨.operand op, d, c⟩ ⟨.rule (.chain op.level), d + 1, c'⟩

/-- In a build that starts at the cursor `start`, the stage begins, with so many rules active. -/
inductive Reached (start : Cursor) : Nat → Stage → Prop
  | start : Reached start 1 ⟨.rule .sequence, 0, start⟩
  | next {n x y} (h : Reached start n x) (hs : Starts limit x y) :
      Reached start (n + y.part.rules) y

/-- The stage opens a level of nesting, one more than there were, with the token that
the cursor shows. -/
inductive Opens : Stage → Cursor → Prop
  | signed {op d c} (hk : c.current.kind = .unary op) : Opens ⟨.rule .signed, d, c⟩ c
  | group {d c} (hk : c.current.kind = .opening) (hc : c.advance.current.kind ≠ .closing) :
    Opens ⟨.rule .group, d, c⟩ c
  | call {d c} (hk : c.advance.current.kind = .opening) : Opens ⟨.rule .call, d, c⟩ c.advance
  | operand {op d c} (hk : c.current.kind = .binary op) (ha : op.rightAssociative) :
    Opens ⟨.operand op, d, c⟩ c

variable {limit} {start : Cursor} {n : Nat} {x y : Stage}

lemma Advances.passes {α : Type} {c c' : Cursor} {a : α} (h : Advances c (.ok a c')) :
    ∃ w, c.Passes w c' :=
  h.imp fun _ h => h.1

/-- Nothing is passed back. -/
lemma Starts.passes (h : Starts limit x y) : ∃ w, x.cursor.Passes w y.cursor := by
  cases h with
  | sequence_first | chain_first | unsigned | primary_call | primary_group | arguments_first
  | climbs_first =>
    exact ⟨[], .refl _⟩
  | sequence_later h | chain_later h | arguments_later _ h => exact h.advances.passes
  | climbs_later _ _ h => exact h.advances.passes
  | signed _ he | group _ _ he | operand_right _ _ he =>
    exact ⟨_, (Cursor.Passes.advance _).trans (enter_passes he)⟩
  | call _ he =>
    exact ⟨_, (Cursor.Passes.advance _).trans ((Cursor.Passes.advance _).trans (enter_passes he))⟩
  | more_first | operand_left => exact ⟨_, .advance _⟩
  | more_later _ h =>
    obtain ⟨w, hw⟩ := h.advances.passes
    exact ⟨_, (Cursor.Passes.advance _).trans hw⟩

lemma Reached.passes (h : Reached limit start n x) : ∃ w, start.Passes w x.cursor := by
  induction h with
  | start => exact ⟨[], .refl _⟩
  | next h hs ih =>
    obtain ⟨v, hv⟩ := ih
    obtain ⟨w, hw⟩ := hs.passes
    exact ⟨v ++ w, hv.trans hw⟩

/-- A level that is opened is within the limit. -/
lemma Starts.depth_le (h : Starts limit x y) (hd : x.depth ≤ limit.toNat) :
    y.depth ≤ limit.toNat := by
  cases h with
  | signed _ he | group _ _ he | operand_right _ _ he | call _ he =>
    have := not_lt_of_enter he
    dsimp only
    omega
  | _ => exact hd

theorem Reached.depth_le (h : Reached limit start n x) : x.depth ≤ limit.toNat := by
  induction h with
  | start => exact Nat.zero_le _
  | next h hs ih => exact hs.depth_le ih

end Builder

end Reckon
