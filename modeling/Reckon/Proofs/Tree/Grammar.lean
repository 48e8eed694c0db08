import Reckon.Proofs.Tree.Reads

/-!
The grammar of expressions, with a rule for each line of the table of operators: `Sequence w t` says
that the tokens `w` are an expression of the tree `t`. A level is the binding strength of the
weakest operator that may stand outside of parentheses; operators that group to the left allow their
own level on the left side, those that group to the right on the right side. Nothing here depends on
how a tree is built. The builder finds the tree of every expression and refuses all other tokens.
-/

namespace Reckon

namespace Grammar

/-- The value that a token denotes as a literal. -/
inductive Denotes (k : Token) : Value → Prop
  | int {n} (hk : k.kind = .int) (h : Text.readInt k.text = .ok n) (hn : InRange n) :
    Denotes k (.int n)
  | float {x} (hk : k.kind = .float) (h : Decimal.read? k.text = some x) : Denotes k (.float x)
  | string (hk : k.kind = .string) : Denotes k (.string k.text)
  | yes (hk : k.kind = .yes) : Denotes k (.boolean true)
  | no (hk : k.kind = .no) : Denotes k (.boolean false)

mutual

/-- Elements separated by commas: one is itself, several are a tuple. -/
inductive Sequence : List Token → Tree → Prop
  | one {w t} (h : Level 2 w t) : Sequence w t
  | several {w t u ts} (hs : Elements w (t :: u :: ts)) : Sequence w (.tuple (t :: u :: ts))

inductive Elements : List Token → List Tree → Prop
  | one {w t} (h : Level 2 w t) : Elements w [t]
  | cons {v t k w ts} (h : Level 2 v t) (hk : k.kind = .comma) (hs : Elements w ts) :
    Elements (v ++ k :: w) (t :: ts)

/-- Outside of parentheses there are only binary operators of at least the given level. -/
inductive Level : Nat → List Token → Tree → Prop
  | left {n op v l k w r} (hn : op.level = n) (ha : op.rightAssociative = false) (h : Level n v l)
    (hk : k.kind = .binary op) (h' : Level (n + 1) w r) : Level n (v ++ k :: w) (.binary op l r)
  | right {n op v l k w r} (hn : op.level = n) (ha : op.rightAssociative) (h : Level (n + 1) v l)
    (hk : k.kind = .binary op) (h' : Level n w r) : Level n (v ++ k :: w) (.binary op l r)
  | up {n w t} (h : Level (n + 1) w t) : Level n w t
  | signed {w t} (h : Signed w t) : Level 9 w t

inductive Signed : List Token → Tree → Prop
  | unary {op k w t} (hk : k.kind = .unary op) (h : Signed w t) : Signed (k :: w) (.unary op t)
  | primary {w t} (h : Primary w t) : Signed w t

inductive Primary : List Token → Tree → Prop
  | literal {k v} (h : Denotes k v) : Primary [k] (.literal v)
  | name {k} (hk : k.kind = .name) : Primary [k] (.name k.text)
  | call_none {k o c} (hk : k.kind = .name) (ho : o.kind = .opening) (hc : c.kind = .closing) :
    Primary [k, o, c] (.call k.text [])
  | call {k o w ts c} (hk : k.kind = .name) (ho : o.kind = .opening) (hs : Elements w ts)
    (hc : c.kind = .closing) : Primary (k :: o :: (w ++ [c])) (.call k.text ts)
  | unit {o c} (ho : o.kind = .opening) (hc : c.kind = .closing) : Primary [o, c] (.literal .empty)
  | group {o w t c} (ho : o.kind = .opening) (h : Sequence w t) (hc : c.kind = .closing) :
    Primary (o :: (w ++ [c])) t

end

lemma Level.of_le {m n : Nat} {w : List Token} {t : Tree} (h : Level m w t) (hn : n ≤ m) :
    Level n w t := by
  induction m generalizing n with
  | zero =>
    obtain rfl : n = 0 := by omega
    exact h
  | succ m ih =>
    rcases Nat.lt_or_ge m n with hm | hm
    · obtain rfl : n = m + 1 := by omega
      exact h
    · exact ih (.up h) hm

lemma denotes_iff {k : Token} {v : Value} :
    Denotes k v ↔ Builder.literal? k = some (.ok v) := by
  constructor
  · rintro (⟨hk, h, hn⟩ | ⟨hk, h⟩ | hk | hk | hk) <;> simp_all [Builder.literal?]
  · intro h
    unfold Builder.literal? at h
    split at h
    · next hk =>
      split at h
      · next n hn =>
        split at h
        · next hr =>
          obtain rfl : Value.int n = v := by simpa using h
          exact .int hk hn hr
        · simp at h
      · simp at h
      · simp at h
    · next hk =>
      split at h
      · next x hx =>
        obtain rfl : Value.float x = v := by simpa using h
        exact .float hk hx
      · simp at h
    · next hk =>
      obtain rfl : Value.string k.text = v := by simpa using h
      exact .string hk
    · next hk =>
      obtain rfl : Value.boolean true = v := by simpa using h
      exact .yes hk
    · next hk =>
      obtain rfl : Value.boolean false = v := by simpa using h
      exact .no hk
    · simp at h

/-- A token of this kind is no operator that takes an expression of level `n` before it out of the
level. -/
def Loose (n : Nat) (k : Token.Kind) : Prop :=
  ∀ op, k = .binary op → op.level < n ∨ op.level = n ∧ op.rightAssociative = false

/-- A token of this kind is no operator of at least the level `n`. -/
def Below (n : Nat) (k : Token.Kind) : Prop :=
  ∀ op, k = .binary op → op.level < n

section

variable {n : Nat} {k : Token.Kind}

lemma Below.loose (h : Below n k) : Loose n k :=
  fun op hop => .inl (h op hop)

lemma Below.loose_left (h : Below (n + 1) k) (hn : n ≤ 7) : Loose n k := by
  intro op hop
  have hlt := h op hop
  rcases Nat.lt_or_ge op.level n with hl | hl
  · exact .inl hl
  · refine .inr ⟨by omega, ?_⟩
    cases ha : op.rightAssociative with
    | false => rfl
    | true =>
      have := Binary.level_of_right ha
      omega

lemma Loose.below_succ (h : Loose n k) : Below (n + 1) k := by
  intro op hop
  rcases h op hop with hl | ⟨hl, -⟩ <;> omega

lemma Loose.below (h : Loose n k) (hn : n = 8) : Below n k := by
  intro op hop
  rcases h op hop with hl | ⟨hl, ha⟩
  · exact hl
  · have := Binary.level_of_left ha
    omega

lemma loose_signed (k : Token.Kind) : Loose 9 k :=
  fun op _ => .inl (Nat.lt_succ_of_le op.level_le)

end

/-! ### What is read is an expression -/

section

open Builder

variable {limit : Int}

/-- Where a rule may start: a group and a call expect their first tokens. -/
def Begins : Rule → Cursor → Prop
  | .group, c => c.current.kind = .opening
  | .call, c => c.current.kind = .name ∧ c.next.kind = .opening
  | _, _ => True

/-- What a rule says of the tokens that it passes from `c` to `c'`. -/
def Means : Rule → Cursor → Tree → Cursor → Prop
  | .sequence, c, t, c' => ∃ w, c.Passes w c' ∧ Sequence w t
  | .chain least, c, t, c' =>
    least ≤ 9 → ∃ w, c.Passes w c' ∧ Level least w t ∧ Below least c'.current.kind
  | .signed, c, t, c' => ∃ w, c.Passes w c' ∧ Signed w t
  | .primary, c, t, c' | .group, c, t, c' | .call, c, t, c' => ∃ w, c.Passes w c' ∧ Primary w t

mutual

lemma sound_reads {r : Rule} {d : Nat} {c : Cursor} {res : Result Tree}
    (h : Reads limit r d c res) (hb : Begins r c) : Holds (Means r c) res := by
  match res, h with
  | .error .., _ => trivial
  | .ok .., .sequence_one h hc =>
    obtain ⟨w, hw, hl, -⟩ := sound_reads h trivial (by decide)
    exact ⟨w, hw, .one hl⟩
  | .ok .., .sequence_several h hc hs =>
    obtain ⟨v, hv, hl, -⟩ := sound_reads h trivial (by decide)
    rcases sound_more hs with ⟨-, rfl, hc'⟩ | ⟨k, w, hw, hk, hts⟩
    · exact absurd hc hc'
    · have hall := Elements.cons hl hk hts
      cases hts <;> exact ⟨_, hv.trans hw, .several hall⟩
  | .ok .., .chain h hs =>
    intro hn
    obtain ⟨v, hv, hl⟩ := sound_reads h trivial
    obtain ⟨w, hw, hb, ht⟩ := sound_climbs hs
    exact ⟨_, hv.trans hw, ht 9 v (.signed hl) hn (loose_signed _), hb⟩
  | .ok .., .signed hk he h =>
    obtain ⟨w, hw, ht⟩ := sound_reads h trivial
    exact ⟨_, (Cursor.Passes.of_kind hk nofun).trans ((enter_passes he).trans hw), .unary hk ht⟩
  | .ok .., .unsigned hk h =>
    obtain ⟨w, hw, ht⟩ := sound_reads h trivial
    exact ⟨w, hw, .primary ht⟩
  | .ok .., .literal h =>
    have hv := denotes_iff.2 h
    refine ⟨_, .advance_of_kind fun hk => ?_, .literal hv⟩
    cases hv <;> simp_all
  | .ok .., .name hk hn => exact ⟨_, .of_kind hk nofun, .name hk⟩
  | .ok .., .primary_call hk hn h => exact sound_reads (r := .call) h ⟨hk, hn⟩
  | .ok .., .primary_group hk h => exact sound_reads (r := .group) h hk
  | .ok .., .unit hc =>
    have hopen := Cursor.Passes.of_kind hb nofun
    exact ⟨_, hopen.trans (.of_kind hc nofun), .unit hb hc⟩
  | .ok .., .group hc he h hend =>
    have hopen := (Cursor.Passes.of_kind hb nofun).trans (enter_passes he)
    obtain ⟨w, hw, ht⟩ := sound_reads h trivial
    obtain ⟨hk, hclose⟩ := close_passes hend
    exact ⟨_, hopen.trans (hw.trans hclose), .group hb ht hk⟩
  | .ok .., .call he h hend =>
    obtain ⟨hk, ho⟩ := hb
    rw [← Cursor.current_advance] at ho
    have hname := Cursor.Passes.of_kind hk nofun
    have hopen := (Cursor.Passes.of_kind ho nofun).trans (enter_passes he)
    obtain ⟨hc, hclose⟩ := close_passes hend
    rcases sound_arguments h with ⟨rfl, rfl⟩ | ⟨w, hw, hts⟩
    · exact ⟨_, hname.trans (hopen.trans hclose), .call_none hk ho hc⟩
    · exact ⟨_, hname.trans (hopen.trans (hw.trans hclose)), .call hk ho hts hc⟩

lemma sound_more {d : Nat} {c : Cursor} {res : Result (List Tree)} (h : More limit d c res) :
    Holds (fun ts c' => ts = [] ∧ c = c' ∧ c.current.kind ≠ .comma ∨
      ∃ k w, c.Passes (k :: w) c' ∧ k.kind = .comma ∧ Elements w ts) res := by
  match res, h with
  | .error .., _ => trivial
  | .ok .., .none hc => exact .inl ⟨rfl, rfl, hc⟩
  | .ok .., .some hc h hs =>
    right
    have hcomma := Cursor.Passes.of_kind hc nofun
    obtain ⟨v, hv, hl, -⟩ := sound_reads h trivial (by decide)
    rcases sound_more hs with ⟨rfl, rfl, -⟩ | ⟨k, w, hw, hk, hts⟩
    · exact ⟨_, _, hcomma.trans hv, hc, .one hl⟩
    · exact ⟨_, _, hcomma.trans (hv.trans hw), hc, .cons hl hk hts⟩

lemma sound_climbs {least d : Nat} {l : Tree} {c : Cursor} {res : Result Tree}
    (h : Climbs limit least d l c res) :
    Holds (fun t c' => ∃ w, c.Passes w c' ∧ Below least c'.current.kind ∧
      ∀ m v, Level m v l → least ≤ m → Loose m c.current.kind → Level least (v ++ w) t) res := by
  match res, h with
  | .error .., _ => trivial
  | .ok .., .stop h =>
    exact ⟨[], .refl c, h, fun m v hl hm _ => (List.append_nil v).symm ▸ hl.of_le hm⟩
  | .ok .., .step hk hn h hs =>
    obtain ⟨v, hv, ho⟩ := sound_operand h hk
    obtain ⟨w, hw, hb, ht⟩ := sound_climbs hs
    refine ⟨_, hv.trans hw, hb, fun m u hl hm hloose => ?_⟩
    obtain ⟨hl', hloose'⟩ := ho m u _ hl hloose
    rw [← List.append_assoc]
    exact ht _ _ hl' hn hloose'

lemma sound_operand {op : Binary} {d : Nat} {c : Cursor} {res : Result Tree}
    (h : Operand limit op d c res) :
    Holds (fun r c' => c.current.kind = .binary op → ∃ w, c.Passes w c' ∧
      ∀ m v l, Level m v l → Loose m c.current.kind →
        Level op.level (v ++ w) (.binary op l r) ∧ Loose op.level c'.current.kind) res := by
  match res, h with
  | .error .., _ => trivial
  | .ok .., .left ha h =>
    intro hk
    have := Binary.level_of_left ha
    obtain ⟨w, hw, hr, hb⟩ := sound_reads h trivial (by omega)
    refine ⟨_, (Cursor.Passes.of_kind hk nofun).trans hw, fun m v l hl hloose => ⟨?_, ?_⟩⟩
    · have hm : op.level ≤ m := by
        rcases hloose op hk with h | h <;> omega
      exact .left rfl ha (hl.of_le hm) hk hr
    · exact hb.loose_left this
  | .ok .., .right ha he h =>
    intro hk
    have := Binary.level_of_right ha
    obtain ⟨w, hw, hr, hb⟩ := sound_reads h trivial (by omega)
    refine ⟨_, ((Cursor.Passes.of_kind hk nofun).trans (enter_passes he)).trans hw,
      fun m v l hl hloose => ⟨?_, hb.loose⟩⟩
    have hm : op.level + 1 ≤ m := by
      rcases hloose op hk with h | h
      · exact h
      · simp [ha] at h
    exact .right rfl ha (hl.of_le hm) hk hr

lemma sound_arguments {d : Nat} {c : Cursor} {res : Result (List Tree)}
    (h : Arguments limit d c res) :
    Holds (fun ts c' => ts = [] ∧ c = c' ∨ ∃ w, c.Passes w c' ∧ Elements w ts) res := by
  match res, h with
  | .error .., _ => trivial
  | .ok .., .none hc => exact .inl ⟨rfl, rfl⟩
  | .ok .., .some hc h hs =>
    right
    obtain ⟨v, hv, hl, -⟩ := sound_reads h trivial (by decide)
    rcases sound_more hs with ⟨rfl, rfl, -⟩ | ⟨k, w, hw, hk, hts⟩
    · exact ⟨_, hv, .one hl⟩
    · exact ⟨_, hv.trans hw, .cons hl hk hts⟩

end

end

/-! ### Every expression is read -/

/-- There is room for the levels that all the tokens left could open. -/
def Room (limit : Int) (d : Nat) (c : Cursor) : Prop :=
  d + c.rest.length ≤ limit

lemma Room.passes {limit : Int} {d : Nat} {c c' : Cursor} {w : List Token} (h : Room limit d c)
    (hp : c.Passes w c') : Room limit d c' := by
  rw [Room, hp.rest, List.length_append] at h
  rw [Room]
  omega

/-- The level that the next token may open. -/
lemma Room.enter {limit : Int} {d : Nat} {c : Cursor} {k : Token} {ks : List Token}
    (h : Room limit d c) (hk : c.rest = k :: ks) (t : Token) :
    Builder.enter limit d t c.advance = .ok () (c.advance.opened d t) ∧
      Room limit (d + 1) (c.advance.opened d t) := by
  rw [Room, hk, List.length_cons] at h
  constructor
  · rw [Builder.enter_eq, if_neg (by omega)]
  · rw [Room, Cursor.rest_opened, Cursor.advance_cons hk]
    dsimp only
    omega

/-- The tokens `w` lie ahead of the cursor with room for their levels, and then `rest`, which starts
with no parenthesis that would make the last name of `w` a call. -/
structure Ahead (limit : Int) (d : Nat) (c : Cursor) (w rest : List Token) : Prop where
  rest_eq : c.rest = w ++ rest
  room : Room limit d c
  closed : Cursor.headKind rest ≠ .opening

namespace Ahead

open Cursor

variable {limit : Int} {d : Nat} {c c' : Cursor} {k : Token} {v w rest : List Token}

lemma before (h : Ahead limit d c (v ++ w) rest) (hw : headKind (w ++ rest) ≠ .opening) :
    Ahead limit d c v (w ++ rest) :=
  ⟨by rw [h.rest_eq, List.append_assoc], h.room, hw⟩

lemma after (h : Ahead limit d c (v ++ w) rest) (hp : c.Passes v c') :
    Ahead limit d c' w rest := by
  have hrest : c'.rest = w ++ rest := by
    have h₁ := hp.rest
    rw [h.rest_eq, List.append_assoc] at h₁
    exact (List.append_cancel_left h₁).symm
  exact ⟨hrest, h.room.passes hp, h.closed⟩

lemma current (h : Ahead limit d c (k :: w) rest) : c.current = k :=
  current_cons h.rest_eq

lemma passes (h : Ahead limit d c (k :: w) rest) : c.Passes [k] c.advance := by
  refine ⟨?_, ?_, ?_⟩ <;> simp [advance_cons h.rest_eq, h.rest_eq]

lemma next (h : Ahead limit d c (k :: w) rest) : Ahead limit d c.advance w rest :=
  Ahead.after (v := [k]) h h.passes

lemma kind_current_end (h : Ahead limit d c [] rest) : c.current.kind = headKind rest := by
  rw [kind_current, h.rest_eq, List.nil_append]

lemma enter (h : Ahead limit d c (k :: w) rest) :
    Builder.enter limit d c.current c.advance = .ok () (c.advance.opened d k) ∧
      Ahead limit (d + 1) (c.advance.opened d k) w rest := by
  obtain ⟨hin, hroom⟩ := h.room.enter h.rest_eq k
  rw [h.current]
  exact ⟨hin, by rw [rest_opened, h.next.rest_eq], hroom, h.closed⟩

end Ahead

section

open Builder Cursor

mutual

lemma head_sequence {w : List Token} {t : Tree} (h : Sequence w t) (rest : List Token) :
    headKind (w ++ rest) ≠ .closing := by
  match h with
  | .one h => exact head_level h _
  | .several hs => exact head_elements hs _

lemma head_elements {w : List Token} {ts : List Tree} (h : Elements w ts) (rest : List Token) :
    headKind (w ++ rest) ≠ .closing := by
  match h with
  | .one h => exact head_level h _
  | .cons h hk hs =>
    rw [List.append_assoc]
    exact head_level h _

lemma head_level {n : Nat} {w : List Token} {t : Tree} (h : Level n w t) (rest : List Token) :
    headKind (w ++ rest) ≠ .closing := by
  match h with
  | .left hn ha h hk h' | .right hn ha h hk h' =>
    rw [List.append_assoc]
    exact head_level h _
  | .up h => exact head_level h _
  | .signed h => exact head_signed h _

lemma head_signed {w : List Token} {t : Tree} (h : Signed w t) (rest : List Token) :
    headKind (w ++ rest) ≠ .closing := by
  match h with
  | .unary hk h => simp [headKind, hk]
  | .primary h => exact (head_primary h _).1

lemma head_primary {w : List Token} {t : Tree} (h : Primary w t) (rest : List Token) :
    headKind (w ++ rest) ≠ .closing ∧ ∀ op, headKind (w ++ rest) ≠ .unary op := by
  match h with
  | .literal h => cases h <;> simp [headKind, *]
  | .name hk | .call_none hk _ _ | .call hk _ _ _ => simp [headKind, hk]
  | .unit ho _ | .group ho _ _ => simp [headKind, ho]

end

end

section

open Builder Cursor

variable {limit : Int}

/-- An expression behind which its chain has to stop. -/
lemma stops {least d : Nat} {c : Cursor} {w rest : List Token} {t : Tree}
    (hA : Ahead limit d c w rest) (hend : Below least (headKind rest))
    (h : ∃ c', c.Passes w c' ∧
      ∀ res, Climbs limit least d t c' res → Reads limit (.chain least) d c res) :
    ∃ c', c.Passes w c' ∧ Reads limit (.chain least) d c (.ok t c') := by
  obtain ⟨c', hp, hc⟩ := h
  refine ⟨c', hp, hc _ (.stop ?_)⟩
  have hk := Ahead.after (w := []) ((List.append_nil w).symm ▸ hA) hp
  rw [hk.kind_current_end]
  exact hend

lemma below_of_end {k : Token.Kind} (h : k = .closing ∨ k = .stop) : Below 2 k := by
  rintro op rfl
  simp at h

mutual

lemma complete_sequence {w : List Token} {t : Tree} (h : Sequence w t) {d : Nat} {c : Cursor}
    {rest : List Token} (hA : Ahead limit d c w rest)
    (hend : headKind rest = .closing ∨ headKind rest = .stop) :
    ∃ c', c.Passes w c' ∧ Reads limit .sequence d c (.ok t c') := by
  match h with
  | .one h =>
    have hb := below_of_end hend
    obtain ⟨c', hp, hr⟩ := stops hA hb (complete_level h hA (Nat.le_refl _) hb.loose)
    refine ⟨c', hp, .sequence_one hr ?_⟩
    have hk := Ahead.after (w := []) ((List.append_nil w).symm ▸ hA) hp
    rw [hk.kind_current_end]
    rcases hend with h | h <;> simp [h]
  | .several hs =>
    obtain ⟨t, us, c₁, c₂, he, hp, hr, hm⟩ := complete_elements hs hA hend
    injection he with ht hus
    subst ht hus
    have hcomma : c₁.current.kind = .comma := by
      cases hm with
      | some hc => exact hc
    exact ⟨c₂, hp, .sequence_several hr hcomma hm⟩

lemma complete_elements {w : List Token} {ts : List Tree} (h : Elements w ts) {d : Nat}
    {c : Cursor} {rest : List Token} (hA : Ahead limit d c w rest)
    (hend : headKind rest = .closing ∨ headKind rest = .stop) :
    ∃ t us c' c'', ts = t :: us ∧ c.Passes w c'' ∧
      Reads limit (.chain elementLevel) d c (.ok t c') ∧ More limit d c' (.ok us c'') := by
  match h with
  | .one h =>
    have hb := below_of_end hend
    obtain ⟨c', hp, hr⟩ := stops hA hb (complete_level h hA (Nat.le_refl _) hb.loose)
    refine ⟨_, [], c', c', rfl, hp, hr, .none ?_⟩
    have hk := Ahead.after (w := []) ((List.append_nil w).symm ▸ hA) hp
    rw [hk.kind_current_end]
    rcases hend with h | h <;> simp [h]
  | .cons (k := k) (w := u) h hk hs =>
    have hA' := hA.before (by simp [headKind, hk])
    have hb : Below 2 (headKind (k :: u ++ rest)) := by simp [headKind, hk, Below]
    obtain ⟨c₁, hp₁, hr₁⟩ := stops hA' hb (complete_level h hA' (Nat.le_refl _) hb.loose)
    have hk₁ := hA.after hp₁
    obtain ⟨t₂, us, c₂, c₃, rfl, hp₂, hr₂, hm⟩ := complete_elements hs hk₁.next hend
    have hcomma : c₁.current.kind = .comma := by rw [hk₁.current, hk]
    exact ⟨_, _, c₁, c₃, rfl, hp₁.trans (hk₁.passes.trans hp₂), hr₁, .some hcomma hr₂ hm⟩

lemma complete_level {n : Nat} {w : List Token} {t : Tree} (h : Level n w t) {d : Nat} {c : Cursor}
    {rest : List Token} {least : Nat} (hA : Ahead limit d c w rest) (hl : least ≤ n)
    (hend : Loose n (headKind rest)) :
    ∃ c', c.Passes w c' ∧
      ∀ res, Climbs limit least d t c' res → Reads limit (.chain least) d c res := by
  match h with
  | .left (k := k) (w := u) hn ha h hk h' =>
    have hA' := hA.before (by simp [headKind, hk])
    have hloose : Loose n (headKind (k :: u ++ rest)) := by simp [headKind, hk, Loose, hn, ha]
    obtain ⟨c₁, hp₁, hc₁⟩ := complete_level h hA' hl hloose
    have hk₁ := hA.after hp₁
    have hb := hend.below_succ
    obtain ⟨c₂, hp₂, hr⟩ :=
      stops hk₁.next hb (complete_level h' hk₁.next (Nat.le_refl _) hb.loose)
    have hop : c₁.current.kind = k.kind := by rw [hk₁.current]
    refine ⟨c₂, hp₁.trans (hk₁.passes.trans hp₂), fun res hres => hc₁ res ?_⟩
    exact .step (hop.trans hk) (Nat.le_trans hl (Nat.le_of_eq hn.symm)) (.left ha (hn ▸ hr)) hres
  | .right (k := k) (w := u) hn ha h hk h' =>
    have hA' := hA.before (by simp [headKind, hk])
    have hloose : Loose (n + 1) (headKind (k :: u ++ rest)) := by simp [headKind, hk, Loose, hn]
    obtain ⟨c₁, hp₁, hc₁⟩ := complete_level h hA' (Nat.le_succ_of_le hl) hloose
    have hk₁ := hA.after hp₁
    obtain ⟨hin, hA₂⟩ := hk₁.enter
    have hb := hend.below (hn ▸ Binary.level_of_right ha)
    obtain ⟨c₂, hp₂, hr⟩ := stops hA₂ hb (complete_level h' hA₂ (Nat.le_refl _) hb.loose)
    have hop : c₁.current.kind = k.kind := by rw [hk₁.current]
    refine ⟨c₂, hp₁.trans ((hk₁.passes.opened d k).trans hp₂), fun res hres => hc₁ res ?_⟩
    exact .step (hop.trans hk) (Nat.le_trans hl (Nat.le_of_eq hn.symm))
      (.right ha hin (hn ▸ hr)) hres
  | .up h => exact complete_level h hA (Nat.le_succ_of_le hl) hend.below_succ.loose
  | .signed h =>
    obtain ⟨c', hp, hr⟩ := complete_signed h hA
    exact ⟨c', hp, fun res hres => .chain hr hres⟩

lemma complete_signed {w : List Token} {t : Tree} (h : Signed w t) {d : Nat} {c : Cursor}
    {rest : List Token} (hA : Ahead limit d c w rest) :
    ∃ c', c.Passes w c' ∧ Reads limit .signed d c (.ok t c') := by
  match h with
  | .unary (k := k) hk h =>
    obtain ⟨hin, hA'⟩ := hA.enter
    obtain ⟨c', hp, hr⟩ := complete_signed h hA'
    have hop : c.current.kind = k.kind := by rw [hA.current]
    exact ⟨c', (hA.passes.opened d k).trans hp, .signed (hop.trans hk) hin hr⟩
  | .primary h =>
    obtain ⟨c', hp, hr⟩ := complete_primary h hA
    refine ⟨c', hp, .unsigned (fun op => ?_) hr⟩
    rw [kind_current, hA.rest_eq]
    exact (head_primary h rest).2 op

lemma complete_primary {w : List Token} {t : Tree} (h : Primary w t) {d : Nat} {c : Cursor}
    {rest : List Token} (hA : Ahead limit d c w rest) :
    ∃ c', c.Passes w c' ∧ Reads limit .primary d c (.ok t c') := by
  match h with
  | .literal h =>
    exact ⟨_, hA.passes, .literal (hA.current.symm ▸ denotes_iff.1 h)⟩
  | .name hk =>
    have hn : c.next.kind ≠ .opening := by
      rw [← current_advance, hA.next.kind_current_end]
      exact hA.closed
    have hr : Reads limit .primary d c (.ok (.name c.current.text) c.advance) :=
      .name (hA.current.symm ▸ hk) hn
    rw [hA.current] at hr
    exact ⟨_, hA.passes, hr⟩
  | .call_none (k := k) (o := o) hk ho hc =>
    obtain ⟨hin, hA'⟩ := hA.next.enter
    have hp := hA.passes.trans (hA.next.passes.opened d o)
    have hn : c.next.kind = .opening := by rw [← current_advance, hA.next.current, ho]
    have hclose : (c.advance.advance.opened d o).current.kind = .closing := by rw [hA'.current, hc]
    have hcall := Reads.call (c := c) hin (.none hclose)
      (close_of_closing hclose)
    rw [hA.current] at hcall
    exact ⟨_, hp.trans hA'.passes, .primary_call (hA.current.symm ▸ hk) hn hcall⟩
  | .call (k := k) (o := o) hk ho hs hc =>
    obtain ⟨hin, hA'⟩ := hA.next.enter
    have hp := hA.passes.trans (hA.next.passes.opened d o)
    have hn : c.next.kind = .opening := by rw [← current_advance, hA.next.current, ho]
    have hin' := hA'.before (by simp [headKind, hc])
    obtain ⟨t, us, c₁, c₂, rfl, hp₁, hr, hm⟩ :=
      complete_elements hs hin' (.inl (by simp [headKind, hc]))
    have hA₂ := hA'.after hp₁
    have hstart : (c.advance.advance.opened d o).current.kind ≠ .closing := by
      rw [kind_current, hin'.rest_eq]
      exact head_elements hs _
    have hclose : c₂.current.kind = .closing := by rw [hA₂.current, hc]
    have hcall := Reads.call (c := c) hin (.some hstart hr hm)
      (close_of_closing hclose)
    rw [hA.current] at hcall
    exact ⟨_, hp.trans (hp₁.trans hA₂.passes), .primary_call (hA.current.symm ▸ hk) hn hcall⟩
  | .unit ho hc =>
    have hend : c.advance.current.kind = .closing := by rw [hA.next.current, hc]
    exact ⟨_, hA.passes.trans hA.next.passes,
      .primary_group (by rw [hA.current, ho]) (.unit hend)⟩
  | .group (o := o) ho h hc =>
    obtain ⟨hin, hA'⟩ := hA.enter
    have hin' := hA'.before (by simp [headKind, hc])
    obtain ⟨c₁, hp₁, hr⟩ := complete_sequence h hin' (.inl (by simp [headKind, hc]))
    have hA₂ := hA'.after hp₁
    have hstart : c.advance.current.kind ≠ .closing := by
      rw [kind_current, hA.next.rest_eq, List.append_assoc]
      exact head_sequence h _
    have hclose : c₁.current.kind = .closing := by rw [hA₂.current, hc]
    have hgroup := Reads.group hstart hin hr (close_of_closing hclose)
    exact ⟨_, (hA.passes.opened d o).trans (hp₁.trans hA₂.passes),
      .primary_group (by rw [hA.current, ho]) hgroup⟩

end

end

/-! ### Why tokens are refused -/

section

open Builder

variable {α β : Type} {limit : Int} {d : Nat} {c c' : Cursor}

/-- A refusal says that the tokens are no expression, or one of them has the text of no literal. -/
def Fair (c : Cursor) : Result α → Prop
  | .ok .. => True
  | .error e _ => (∃ f, e.cause = .parse f) ∨
    ∃ k ∈ c.rest, ∃ f, literal? k = some (.error f) ∧ e.cause = .fault f

/-- A refusal is fair, or it is for the nesting and there was not room for all levels. -/
def Explained (limit : Int) (d : Nat) (c : Cursor) : Result α → Prop
  | .ok .. => True
  | .error e c' => Fair c (.error e c' : Result α) ∨ e.cause = .nesting limit ∧ ¬ Room limit d c

lemma Explained.of_moves {d' : Nat} {a : β} {e : Refusal} {c'' : Cursor}
    (h : Explained limit d' c' (.error e c'' : Result α)) (hm : Moves c (.ok a c'))
    (hroom : Room limit d c → Room limit d' c') :
    Explained limit d c (.error e c'' : Result α) := by
  rcases h with (h | ⟨k, hk, h⟩) | ⟨h, hno⟩
  · exact .inl (.inl h)
  · obtain ⟨w, hw⟩ := hm
    refine .inl (.inr ⟨k, ?_, h⟩)
    rw [hw.rest]
    exact List.mem_append_right _ hk
  · exact .inr ⟨h, mt hroom hno⟩

lemma Room.moves {a : α} (h : Room limit d c) (hm : Moves c (.ok a c')) : Room limit d c' := by
  obtain ⟨w, hw⟩ := hm
  exact h.passes hw

/-- A refusal behind what is read on the same level. -/
lemma Explained.behind {a : β} {e : Refusal} {c'' : Cursor}
    (h : Explained limit d c' (.error e c'' : Result α)) (hm : Moves c (.ok a c')) :
    Explained limit d c (.error e c'' : Result α) :=
  h.of_moves hm fun hr => hr.moves hm

/-- A refusal on the level that a token opens. -/
lemma Explained.inside {k : Token.Kind} {t : Token} {e : Refusal} {c'' : Cursor}
    (h : Explained limit (d + 1) c' (.error e c'' : Result α)) (hk : c.current.kind = k)
    (hne : k ≠ .stop) (he : Builder.enter limit d t c.advance = .ok () c') :
    Explained limit d c (.error e c'' : Result α) := by
  refine h.of_moves (advance_moves.trans (enter_moves he)) fun hr => ?_
  obtain ⟨he', hroom⟩ := hr.enter (Cursor.rest_of_kind (hk ▸ hne)) t
  rw [he'] at he
  injection he with _ hc
  exact hc ▸ hroom

lemma explained_deep {k : Token.Kind} {t : Token} {e : Refusal} (hk : c.current.kind = k)
    (hne : k ≠ .stop) (he : Builder.enter limit d t c.advance = .error e c') :
    Explained limit d c (.error e c' : Result α) := by
  refine .inr ⟨?_, fun hr => ?_⟩
  · rw [enter_eq] at he
    split at he <;> cases he
    rfl
  · rw [(hr.enter (Cursor.rest_of_kind (hk ▸ hne)) t).1] at he
    cases he

lemma explained_parse {f : ParseFault} {pos : Nat} :
    Explained limit d c (.error ⟨.parse f, pos⟩ c' : Result α) :=
  .inl (.inl ⟨f, rfl⟩)

lemma explained_close {f : ParseFault} {t : Token} {e : Refusal} (h : close f t c = .error e c')
    (c₀ : Cursor) : Explained limit d c₀ (.error e c' : Result α) := by
  obtain ⟨-, ⟨-, rfl⟩ | ⟨-, -, rfl⟩⟩ := close_eq_error.1 h
  · exact explained_parse
  · exact explained_parse

mutual

lemma explained_reads {r : Rule} {d : Nat} {c : Cursor} {res : Result Tree}
    (h : Reads limit r d c res) (hb : Begins r c) : Explained limit d c res := by
  match res, h with
  | .ok .., _ => trivial
  | .error .., .sequence_first_refused h => exact explained_reads h trivial
  | .error .., .sequence_later_refused h hc hs => exact (explained_more hs).behind h.advances.moves
  | .error .., .chain h hs => exact (explained_climbs hs).behind h.advances.moves
  | .error .., .chain_refused h => exact explained_reads h trivial
  | .error .., .signed_deep hk he => exact explained_deep hk nofun he
  | .error .., .signed_refused hk he h => exact (explained_reads h trivial).inside hk nofun he
  | .error .., .unsigned hk h => exact explained_reads h trivial
  | .error .., .literal_fault h =>
    refine .inl (.inr ⟨c.current, ?_, _, h, rfl⟩)
    rw [Cursor.rest_of_kind fun hk => by simp [literal?, hk] at h]
    exact List.mem_cons_self
  | .error .., .primary_call hk hn h => exact explained_reads (r := .call) h ⟨hk, hn⟩
  | .error .., .primary_group hk h => exact explained_reads (r := .group) h hk
  | .error .., .misplaced hl ho hn => exact explained_parse
  | .error .., .group_deep hc he => exact explained_deep hb nofun he
  | .error .., .group_refused hc he h => exact (explained_reads h trivial).inside hb nofun he
  | .error .., .group_open hc he h hend => exact explained_close hend c
  | .error .., .call_deep he =>
    rw [Begins, ← Cursor.current_advance] at hb
    exact (explained_deep hb.2 nofun he).behind advance_moves
  | .error .., .call_refused he h =>
    rw [Begins, ← Cursor.current_advance] at hb
    exact ((explained_arguments h).inside hb.2 nofun he).behind advance_moves
  | .error .., .call_open he h hend => exact explained_close hend c

lemma explained_more {d : Nat} {c : Cursor} {res : Result (List Tree)} (h : More limit d c res) :
    Explained limit d c res := by
  match res, h with
  | .ok .., _ => trivial
  | .error .., .first_refused hc h => exact (explained_reads h trivial).behind advance_moves
  | .error .., .later_refused hc h hs =>
    exact (explained_more hs).behind (advance_moves.trans h.advances.moves)

lemma explained_climbs {least d : Nat} {l : Tree} {c : Cursor} {res : Result Tree}
    (h : Climbs limit least d l c res) : Explained limit d c res := by
  match res, h with
  | .ok .., _ => trivial
  | .error .., .step hk hn h hs => exact (explained_climbs hs).behind h.advances.moves
  | .error .., .refused hk hn h => exact explained_operand h hk

lemma explained_operand {op : Binary} {d : Nat} {c : Cursor} {res : Result Tree}
    (h : Operand limit op d c res) (hk : c.current.kind = .binary op) :
    Explained limit d c res := by
  match res, h with
  | .ok .., _ => trivial
  | .error .., .left ha h => exact (explained_reads h trivial).behind advance_moves
  | .error .., .right ha he h => exact (explained_reads h trivial).inside hk nofun he
  | .error .., .deep ha he => exact explained_deep hk nofun he

lemma explained_arguments {d : Nat} {c : Cursor} {res : Result (List Tree)}
    (h : Arguments limit d c res) : Explained limit d c res := by
  match res, h with
  | .ok .., _ => trivial
  | .error .., .first_refused hc h => exact explained_reads h trivial
  | .error .., .later_refused hc h hs => exact (explained_more hs).behind h.advances.moves

end

end

/-! ### The builder and the grammar -/

/-- The tokens before the first `stop`. -/
def body (ts : List Token) : List Token :=
  ts.takeWhile (·.kind ≠ .stop)

lemma body_append {ts : List Token} (h : ∀ k ∈ ts, k.kind ≠ .stop) (us : List Token) :
    body (ts ++ us) = ts ++ body us :=
  List.takeWhile_append_of_pos fun k hk => decide_eq_true (h k hk)

lemma body_of_forall {ts : List Token} (h : ∀ k ∈ ts, k.kind ≠ .stop) : body ts = ts := by
  have hbody : body (ts ++ []) = ts ++ [] := body_append h []
  rwa [List.append_nil] at hbody

/-- Tokens have at most one tree. -/
lemma Sequence.unique {w : List Token} {t u : Tree} (h : Sequence w t) (h' : Sequence w u) :
    t = u := by
  have hA : Ahead w.length 0 ⟨[], w, 0, []⟩ w [] := ⟨by simp, by simp [Room], nofun⟩
  obtain ⟨c, -, hc⟩ := complete_sequence h hA (.inr rfl)
  obtain ⟨c', -, hc'⟩ := complete_sequence h' hA (.inr rfl)
  have := hc.unique hc'
  injection this

lemma sequence_of_build {source : Option String} {limit : Int} {ts : List Token} {t : Tree}
    (h : Tree.build source limit ts = .ok t) : Sequence (body ts) t := by
  obtain ⟨c, hr, hc⟩ := Tree.build_eq_ok.1 h
  obtain ⟨w, hw, ht⟩ := sound_reads hr trivial
  have hrest : body ts = w ++ c.rest := hw.rest
  rw [hrest, hc, List.append_nil]
  exact ht

lemma build_of_sequence (source : Option String) {limit : Int} {ts : List Token} {t : Tree}
    (h : Sequence (body ts) t) (hlimit : (body ts).length ≤ limit) :
    Tree.build source limit ts = .ok t := by
  have hA : Ahead limit 0 (.ofTokens ts) (body ts) [] := by
    refine ⟨by simp [Cursor.ofTokens, body], ?_, nofun⟩
    simpa [Room, Cursor.ofTokens, body] using hlimit
  obtain ⟨c, hp, hr⟩ := complete_sequence h hA (.inr rfl)
  refine Tree.build_eq_ok.2 ⟨c, hr, ?_⟩
  have := hp.rest
  rw [hA.rest_eq] at this
  exact (List.append_cancel_left this).symm

end Grammar

end Reckon
