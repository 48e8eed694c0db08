import Reckon.Proofs.Evaluate.Depth
import Reckon.Proofs.Tree.Marks

/-!
The levels of nesting that a printed tree takes: one for each prefix operator and each pair of
parentheses around something, and one for the right side of `^`. Where so many levels are left, the
builder reads the tokens of the tree as the tree; where there are fewer, it refuses them for their
nesting and for nothing else.
-/

namespace Reckon

namespace Tree

mutual

/-- How many levels of nesting the printed form of a tree takes. -/
def levels : Tree → Nat
  | literal _ | name _ => 0
  | unary _ t => t.levels + 1
  | binary op l r => max l.levels (op.rightDepth r.levels) + 1
  | call _ ts | tuple ts => mostLevels ts + 1

def mostLevels : List Tree → Nat
  | [] => 0
  | t :: ts => max t.levels (mostLevels ts)

end

/-- What trees in parentheses stand for: none for the unit value, one for itself, several
for a tuple. -/
def group : List Tree → Tree
  | [] => literal .empty
  | [t] => t
  | t :: u :: ts => tuple (t :: u :: ts)

end Tree

namespace Builder

open Cursor Token

/-- Tokens of the given marks lie ahead of the cursor, and then `rest`. -/
def Shown (c : Cursor) (ms : List Mark) (rest : List Token) : Prop :=
  ∃ w, w.map mark = ms ∧ c.rest = w ++ rest

/-- The kind of the first token of marks that stand before other tokens. -/
def firstKind : List Mark → List Token → Token.Kind
  | [], rest => headKind rest
  | m :: _, _ => m.1

/-- The marks begin with a comma, if there are any. -/
def Separated (ms : List Mark) : Prop :=
  ∀ m ∈ ms.head?, m.1 = .comma

section

variable {c c' : Cursor} {k : Token.Kind} {s : String} {ms ns : List Mark} {rest : List Token}

lemma Shown.rest_eq (h : Shown c [] rest) : c.rest = rest := by
  obtain ⟨w, hw, hc⟩ := h
  obtain rfl := List.map_eq_nil_iff.1 hw
  exact hc

lemma Shown.kind (h : Shown c ms rest) : c.current.kind = firstKind ms rest := by
  obtain ⟨w, rfl, hc⟩ := h
  rw [kind_current, hc]
  cases w <;> rfl

lemma Shown.text (h : Shown c ((k, s) :: ms) rest) : c.current.text = s := by
  obtain ⟨w, hw, hc⟩ := h
  obtain ⟨t, w, rfl, ht, -⟩ := List.map_eq_cons_iff.1 hw
  rw [current_cons hc]
  exact congrArg Prod.snd ht

lemma Shown.advance (h : Shown c ((k, s) :: ms) rest) : Shown c.advance ms rest := by
  obtain ⟨w, hw, hc⟩ := h
  obtain ⟨t, w, rfl, -, hw⟩ := List.map_eq_cons_iff.1 hw
  exact ⟨w, hw, by rw [advance_cons hc]; rfl⟩

lemma Shown.opened (h : Shown c ms rest) (d : Nat) (t : Token) : Shown (c.opened d t) ms rest := by
  obtain ⟨w, hw, hc⟩ := h
  exact ⟨w, hw, by rw [rest_opened, hc]⟩

/-- Marks one after another. -/
lemma Shown.split (h : Shown c (ms ++ ns) rest) :
    ∃ rest', Shown c ms rest' ∧ headKind rest' = firstKind ns rest ∧
      ∀ c' : Cursor, c'.rest = rest' → Shown c' ns rest := by
  obtain ⟨w, hw, hc⟩ := h
  obtain ⟨v, w, rfl, hv, hw⟩ := List.map_eq_append_iff.1 hw
  refine ⟨w ++ rest, ⟨v, hv, by rw [hc, List.append_assoc]⟩, ?_, fun c' hc' => ⟨w, hw, hc'⟩⟩
  subst hw
  cases w <;> rfl

end

/-! ### Enough levels -/

section

variable {limit : Int} {d n k : Nat} {c c' c'' : Cursor} {t u : Tree} {ts : List Tree}
  {res : Result Tree} {ms ns : List Mark} {rest : List Token}

lemma enter_ok (h : (d + 1 : Nat) ≤ limit) (t : Token) :
    enter limit d t c = .ok () (c.opened d t) := by
  rw [enter_eq, if_neg (by omega)]

lemma enter_refused (h : limit < d + 1) (t : Token) :
    enter limit d t c = .error ⟨.nesting limit, t.pos⟩ c := by
  rw [enter_eq, if_pos h]

/-- A chain of one operand. -/
lemma chain_one (h : Reads limit .signed d c (.ok t c'))
    (hend : ∀ op, c'.current.kind ≠ .binary op) (least : Nat) :
    Reads limit (.chain least) d c (.ok t c') :=
  .chain h (.stop fun op hop => absurd hop (hend op))

/-- Something in parentheses, as an operand. -/
lemma signed_group (hk : c.current.kind = .opening) (h : Reads limit .group d c res) :
    Reads limit .signed d c res :=
  .unsigned (by simp [hk]) (.primary_group hk h)

lemma signed_call (hk : c.current.kind = .name) (hn : c.next.kind = .opening)
    (h : Reads limit .call d c res) : Reads limit .signed d c res :=
  .unsigned (by simp [hk]) (.primary_call hk hn h)

lemma not_closing_of_signed (h : Reads limit .signed d c (.ok t c')) :
    c.current.kind ≠ .closing := by
  intro hc
  cases h with
  | signed hk => rw [hc] at hk; cases hk
  | unsigned hk h =>
    cases h with
    | literal h => rw [literal?, hc] at h; cases h
    | name hk | primary_call hk | primary_group hk => rw [hc] at hk; cases hk

lemma not_closing_of_chain {least : Nat} (h : Reads limit (.chain least) d c (.ok t c')) :
    c.current.kind ≠ .closing := by
  cases h with
  | chain h => exact not_closing_of_signed h

lemma not_closing_of_sequence (h : Reads limit .sequence d c (.ok t c')) :
    c.current.kind ≠ .closing := by
  cases h with
  | sequence_one h | sequence_several h => exact not_closing_of_chain h

/-- An element and more elements, of which there may be none. -/
lemma sequence_of_more (h : Reads limit (.chain elementLevel) d c (.ok t c'))
    (hs : More limit d c' (.ok ts c'')) :
    Reads limit .sequence d c (.ok (.group (t :: ts)) c'') := by
  cases hs with
  | none hc => exact .sequence_one h hc
  | some hc hr hs => exact .sequence_several h hc (.some hc hr hs)

lemma group_of_sequence (hd : (d + 1 : Nat) ≤ limit)
    (h : Reads limit .sequence (d + 1) (c.advance.opened d c.current) (.ok t c'))
    (hend : c'.current.kind = .closing) : Reads limit .group d c (.ok t c'.advance) := by
  have hc := not_closing_of_sequence h
  rw [kind_current, rest_opened, ← kind_current] at hc
  exact .group hc (enter_ok hd _) h (close_of_closing hend)

lemma signed_literal {v : Value} (h : literal? c.current = some (.ok v)) :
    Reads limit .signed d c (.ok (.literal v) c.advance) := by
  refine .unsigned (fun op hop => ?_) (.literal h)
  rw [literal?, hop] at h
  cases h

lemma readInt_toString {n : Int} (h : 0 ≤ n) (hr : InRange n) :
    Text.readInt (toString n) = .ok n := by
  lift n to Nat using h
  rw [Tree.toString_of_nonneg (Int.natCast_nonneg n), Int.toNat_natCast,
    Text.readInt_toDigits hr.writable]

lemma reads_value {v : Value} (hv : v.Written) (hf : v.Finite) {rest : List Token}
    (h : Shown c v.marks rest) : ∃ c', Reads limit .signed d c (.ok (.literal v) c') ∧
      c'.rest = rest := by
  cases v with
  | int n =>
    have hk : c.current.kind = .int := h.kind
    have hr : InRange n := ⟨Int.le_trans (by decide) hv.1, hv.2⟩
    refine ⟨_, signed_literal ?_, h.advance.rest_eq⟩
    rw [literal?, hk]
    simp only [h.text, readInt_toString hv.1 hr, hr, if_true]
  | float x =>
    have hk : c.current.kind = .float := h.kind
    refine ⟨_, signed_literal ?_, h.advance.rest_eq⟩
    rw [literal?, hk]
    simp only [h.text, Decimal.read?_write hv hf]
  | boolean b =>
    cases b with
    | true =>
      have hk : c.current.kind = .yes := h.kind
      refine ⟨_, signed_literal ?_, h.advance.rest_eq⟩
      rw [literal?, hk]
    | false =>
      have hk : c.current.kind = .no := h.kind
      refine ⟨_, signed_literal ?_, h.advance.rest_eq⟩
      rw [literal?, hk]
  | string s =>
    have hk : c.current.kind = .string := h.kind
    refine ⟨_, signed_literal ?_, h.advance.rest_eq⟩
    rw [literal?, hk, h.text]
  | tuple items => exact hv.elim
  | empty =>
    have hk : c.current.kind = .opening := h.kind
    have hc : c.advance.current.kind = .closing := h.advance.kind
    exact ⟨_, signed_group hk (.unit hc), h.advance.advance.rest_eq⟩

/-- A tree begins with a token that neither closes a group nor separates elements nor
ends the tokens. -/
lemma firstKind_marks {t : Tree} (ht : t.Written) (ms : List Mark) (rest : List Token) :
    firstKind (t.marks ++ ms) rest ≠ .closing ∧ firstKind (t.marks ++ ms) rest ≠ .stop := by
  match t with
  | .literal (.int n) | .literal (.float x) | .literal (.string s) | .literal .empty | .name n
  | .unary op t | .binary op l r | .call f ts | .tuple ts => exact ⟨nofun, nofun⟩
  | .literal (.boolean b) => cases b <;> exact ⟨nofun, nofun⟩
  | .literal (.tuple _) => exact ht.elim

/-- Elements begin with the first of them, so not with a closing parenthesis. -/
lemma Shown.not_closing {ms : List Mark} {rest : List Token} (ht : t.Written)
    (h : Shown c (Tree.listMarks (t :: ts) ++ ms) rest) : c.current.kind ≠ .closing := by
  rw [h.kind, Tree.listMarks, List.append_assoc]
  exact (firstKind_marks ht _ _).1

lemma Separated.firstKind (h : Separated ms) (hr : headKind rest = .closing) :
    firstKind ms rest = .comma ∨ firstKind ms rest = .closing := by
  cases ms with
  | nil => exact .inr hr
  | cons m ms => exact .inl (h m rfl)

lemma not_binary_of_kind {rest : List Token} (hc : c.rest = rest)
    (h : headKind rest = .comma ∨ headKind rest = .closing) (op : Binary) :
    c.current.kind ≠ .binary op := by
  rw [kind_current, hc]
  rcases h with h | h <;> rw [h] <;> exact nofun

lemma not_opening_of_kind {rest : List Token}
    (h : headKind rest = .comma ∨ headKind rest = .closing) : headKind rest ≠ .opening := by
  rcases h with h | h <;> rw [h] <;> exact nofun

/-- Wherever `n` levels are left, the marks are read as the tree. What follows must not be an
opening parenthesis, which would make a call of a name. -/
def Takes (limit : Int) (ms : List Mark) (n : Nat) (t : Tree) : Prop :=
  ∀ ⦃d : Nat⦄ ⦃c : Cursor⦄ ⦃rest : List Token⦄, Shown c ms rest → headKind rest ≠ .opening →
    (d + n : Nat) ≤ limit → ∃ c', Reads limit .signed d c (.ok t c') ∧ c'.rest = rest

def MoreTakes (limit : Int) (ms : List Mark) (n : Nat) (ts : List Tree) : Prop :=
  ∀ ⦃d : Nat⦄ ⦃c : Cursor⦄ ⦃rest : List Token⦄, Shown c ms rest → headKind rest = .closing →
    (d + n : Nat) ≤ limit → ∃ c', More limit d c (.ok ts c') ∧ c'.rest = rest

/-- The marks of the tree are read as the tree wherever its levels are left. -/
abbrev Returns (limit : Int) (t : Tree) : Prop :=
  Takes limit t.marks t.levels t

abbrev MoreReturns (limit : Int) (ts : List Tree) : Prop :=
  MoreTakes limit (Tree.moreMarks ts) (Tree.mostLevels ts) ts

lemma Takes.mono (h : Takes limit ms n t) (hk : n ≤ k) : Takes limit ms k t :=
  fun d _ _ hs hr hd => h hs hr (d := d) (by omega)

lemma takes_name (s : String) : Takes limit [(.name, s)] 0 (.name s) := by
  intro d c rest h hr hd
  have hk : c.current.kind = .name := h.kind
  have hn : c.next.kind ≠ .opening := by
    rw [← current_advance, kind_current, h.advance.rest_eq]
    exact hr
  refine ⟨c.advance, .unsigned (by simp [hk]) ?_, h.advance.rest_eq⟩
  have hname : Reads limit .primary d c _ := .name hk hn
  rwa [h.text] at hname

lemma takes_unary {op : Unary} (ht : Takes limit ms n t) :
    Takes limit ((.unary op, op.symbol) :: ms) (n + 1) (.unary op t) := by
  intro d c rest h hr hd
  have hk : c.current.kind = .unary op := h.kind
  obtain ⟨c', ht', hrest⟩ := ht (h.advance.opened d c.current) hr (d := d + 1) (by omega)
  exact ⟨c', .signed hk (enter_ok (by omega) _) ht', hrest⟩

/-- The right side of an operator, read one level deeper if the operator groups to the right. -/
lemma reads_operand {op : Binary} (hu : Takes limit ms n u) (h : Shown c.advance ms rest)
    (hrest : headKind rest = .closing) (hd : (d + op.rightDepth n : Nat) ≤ limit) :
    ∃ c', Operand limit op d c (.ok u c') ∧ c'.rest = rest := by
  have hopen := not_opening_of_kind (.inr hrest)
  cases ha : op.rightAssociative with
  | false =>
    rw [Binary.rightDepth_of_left ha] at hd
    obtain ⟨c', ht, hc⟩ := hu h hopen hd
    exact ⟨c', .left ha (chain_one ht (not_binary_of_kind hc (.inr hrest)) _), hc⟩
  | true =>
    rw [Binary.rightDepth_of_right ha] at hd
    obtain ⟨c', ht, hc⟩ := hu (h.opened d c.current) hopen (d := d + 1) (by omega)
    exact ⟨c', .right ha (enter_ok (by omega) _)
      (chain_one ht (not_binary_of_kind hc (.inr hrest)) _), hc⟩

lemma takes_binary {op : Binary} (ht : Takes limit ms n t) (hu : Takes limit ns k u) :
    Takes limit ((.opening, "(") :: (ms ++ (.binary op, op.symbol) :: (ns ++ [(.closing, ")")])))
      (max n (op.rightDepth k) + 1) (.binary op t u) := by
  intro d c rest h _ hd
  have hk : c.current.kind = .opening := h.kind
  obtain ⟨rest₁, hl, hkind₁, hnext₁⟩ := (h.advance.opened d c.current).split
  have hopen : headKind rest₁ ≠ .opening := by
    rw [hkind₁]
    exact nofun
  obtain ⟨c₁, hlr, hrest₁⟩ := ht hl hopen (d := d + 1) (by omega)
  have hop := hnext₁ c₁ hrest₁
  obtain ⟨rest₂, hr, hkind₂, hnext₂⟩ := hop.advance.split
  have hd₂ : (d + 1 + op.rightDepth k : Nat) ≤ limit := by
    have : op.rightDepth k ≤ max n (op.rightDepth k) := Nat.le_max_right _ _
    omega
  obtain ⟨c₂, hrr, hrest₂⟩ := reads_operand hu hr hkind₂ hd₂
  have hend := hnext₂ c₂ hrest₂
  have hclosing : c₂.current.kind = .closing := hend.kind
  have hlevel : elementLevel ≤ op.level := op.elementLevel_le
  have hchain : Reads limit (.chain elementLevel) (d + 1) (c.advance.opened d c.current)
      (.ok (.binary op t u) c₂) :=
    .chain hlr (.step hop.kind hlevel hrr (.stop fun op hop => by rw [hclosing] at hop; cases hop))
  have hgroup := group_of_sequence (by omega) (.sequence_one hchain (by simp [hclosing])) hclosing
  exact ⟨_, signed_group hk hgroup, hend.advance.rest_eq⟩

/-- Elements up to a closing parenthesis, the first of them and then more. -/
lemma reads_elements (ht : Takes limit ms n t) (hts : MoreTakes limit ns k ts) (hn : Separated ns)
    (h : Shown c (ms ++ ns) rest) (hr : headKind rest = .closing)
    (hd : (d + max n k : Nat) ≤ limit) :
    ∃ c' c'', Reads limit (.chain elementLevel) d c (.ok t c') ∧
      c'.current.kind = firstKind ns rest ∧ More limit d c' (.ok ts c'') ∧ c''.rest = rest := by
  obtain ⟨rest₁, h₁, hkind₁, hnext₁⟩ := h.split
  have hkind := hn.firstKind hr
  rw [← hkind₁] at hkind
  obtain ⟨c₁, hr₁, hrest₁⟩ := ht h₁ (not_opening_of_kind hkind) (d := d) (by omega)
  have hmore := hnext₁ c₁ hrest₁
  obtain ⟨c₂, hr₂, hrest₂⟩ := hts hmore hr (d := d) (by omega)
  exact ⟨c₁, c₂, chain_one hr₁ (not_binary_of_kind hrest₁ hkind) _, hmore.kind, hr₂, hrest₂⟩

lemma moreTakes_nil : MoreTakes limit [] n [] := by
  intro d c rest h hr _
  refine ⟨c, .none ?_, h.rest_eq⟩
  rw [kind_current, h.rest_eq, hr]
  exact nofun

lemma moreTakes_cons (ht : Takes limit ms n t) (hts : MoreTakes limit ns k ts) (hn : Separated ns) :
    MoreTakes limit ((.comma, ",") :: (ms ++ ns)) (max n k) (t :: ts) := by
  intro d c rest h hr hd
  have hk : c.current.kind = .comma := h.kind
  obtain ⟨c₁, c₂, hr₁, -, hr₂, hrest⟩ := reads_elements ht hts hn h.advance hr hd
  exact ⟨c₂, .some hk hr₁ hr₂, hrest⟩

lemma takes_call_none (f : String) :
    Takes limit [(.name, f), (.opening, "("), (.closing, ")")] 1 (.call f []) := by
  intro d c rest h _ hd
  have hk : c.current.kind = .name := h.kind
  have ho : c.advance.current.kind = .opening := h.advance.kind
  have hin := h.advance.advance.opened d c.advance.current
  have hclosing : (c.advance.advance.opened d c.advance.current).current.kind = .closing := hin.kind
  have hcall := Reads.call (enter_ok (t := c.advance.current) (by omega)) (.none hclosing)
    (close_of_closing hclosing)
  rw [h.text] at hcall
  exact ⟨_, signed_call hk (by rw [← current_advance, ho]) hcall, hin.advance.rest_eq⟩

lemma takes_call {f : String} (ht : Takes limit ms n t) (hts : MoreTakes limit ns k ts)
    (hn : Separated ns) :
    Takes limit ((.name, f) :: (.opening, "(") :: (ms ++ ns ++ [(.closing, ")")])) (max n k + 1)
      (.call f (t :: ts)) := by
  intro d c rest h _ hd
  have hk : c.current.kind = .name := h.kind
  have ho : c.advance.current.kind = .opening := h.advance.kind
  have hin := h.advance.advance.opened d c.advance.current
  obtain ⟨rest₁, hlist, hkind₁, hnext₁⟩ := hin.split
  obtain ⟨c₁, c₂, hr₁, -, hr₂, hrest⟩ :=
    reads_elements ht hts hn hlist hkind₁ (d := d + 1) (by omega)
  have hend := hnext₁ c₂ hrest
  have hcall := Reads.call (enter_ok (t := c.advance.current) (by omega))
    (.some (not_closing_of_chain hr₁) hr₁ hr₂) (close_of_closing hend.kind)
  rw [h.text] at hcall
  exact ⟨_, signed_call hk (by rw [← current_advance, ho]) hcall, hend.advance.rest_eq⟩

/-- Parentheses around one tree or several. -/
lemma takes_group (ht : Takes limit ms n t) (hts : MoreTakes limit ns k ts) (hn : Separated ns) :
    Takes limit ((.opening, "(") :: (ms ++ ns ++ [(.closing, ")")])) (max n k + 1)
      (.group (t :: ts)) := by
  intro d c rest h _ hd
  have hk : c.current.kind = .opening := h.kind
  obtain ⟨rest₁, hlist, hkind₁, hnext₁⟩ := (h.advance.opened d c.current).split
  obtain ⟨c₁, c₂, hr₁, -, hr₂, hrest⟩ :=
    reads_elements ht hts hn hlist hkind₁ (d := d + 1) (by omega)
  have hend := hnext₁ c₂ hrest
  have hgroup := group_of_sequence (by omega) (sequence_of_more hr₁ hr₂) hend.kind
  exact ⟨_, signed_group hk hgroup, hend.advance.rest_eq⟩

lemma separated_more (ts : List Tree) : Separated (Tree.moreMarks ts) := by
  cases ts with
  | nil => exact nofun
  | cons t ts => exact fun m hm => by cases hm; rfl

mutual

theorem reads_tree (t : Tree) (ht : t.Written) (hf : t.Finite) : Returns limit t := by
  match t with
  | .literal v => exact fun _ _ _ h _ _ => reads_value ht hf h
  | .name n => exact takes_name n
  | .unary op t => exact takes_unary (reads_tree t ht hf)
  | .binary op l r => exact takes_binary (reads_tree l ht.1 hf.1) (reads_tree r ht.2 hf.2)
  | .call f [] => exact takes_call_none f
  | .call f (t :: ts) =>
    exact takes_call (reads_tree t ht.2.1 hf.1) (reads_more ts ht.2.2 hf.2) (separated_more ts)
  | .tuple [] => exact absurd ht.1 (by decide)
  | .tuple [_] => exact absurd ht.1 (by simp)
  | .tuple (t :: u :: ts) =>
    exact takes_group (reads_tree t ht.2.1 hf.1) (reads_more (u :: ts) ht.2.2 hf.2)
      (separated_more _)

lemma reads_more (ts : List Tree) (ht : Tree.AllWritten ts) (hf : Tree.AllFinite ts) :
    MoreReturns limit ts := by
  match ts with
  | [] => exact moreTakes_nil
  | t :: ts =>
    exact moreTakes_cons (reads_tree t ht.1 hf.1) (reads_more ts ht.2 hf.2) (separated_more ts)

end

end

/-! ### Too few levels -/

section

variable {limit : Int} {d : Nat} {c c' : Cursor} {t : Tree} {ts : List Tree}

/-- One of the results is a refusal for the nesting. -/
abbrev TooDeep {α : Type} (limit : Int) (p : Result α → Prop) : Prop :=
  ∃ r c', p (.error r c') ∧ r.cause = .nesting limit

/-- Wherever too few levels are left, the marks of the tree are refused for their nesting. -/
def Overflows (limit : Int) (t : Tree) : Prop :=
  ∀ ⦃d : Nat⦄ ⦃c : Cursor⦄ ⦃rest : List Token⦄, Shown c t.marks rest → headKind rest ≠ .opening →
    (d : Int) ≤ limit → limit < (d + t.levels : Nat) → TooDeep limit (Reads limit .signed d c)

def MoreOverflows (limit : Int) (ts : List Tree) : Prop :=
  ∀ ⦃d : Nat⦄ ⦃c : Cursor⦄ ⦃rest : List Token⦄, Shown c (Tree.moreMarks ts) rest →
    headKind rest = .closing → (d : Int) ≤ limit → limit < (d + Tree.mostLevels ts : Nat) →
    TooDeep limit (More limit d c)

/-- A group is refused at its opening parenthesis or inside. -/
lemma refused_group (hk : c.current.kind = .opening) (hc : c.advance.current.kind ≠ .closing)
    (h : (d + 1 : Nat) ≤ limit →
      TooDeep limit (Reads limit .sequence (d + 1) (c.advance.opened d c.current))) :
    TooDeep limit (Reads limit .signed d c) := by
  by_cases hd : limit < d + 1
  · exact ⟨_, _, signed_group hk (.group_deep hc (enter_refused hd _)), rfl⟩
  obtain ⟨r, c', hr, hcause⟩ := h (by omega)
  exact ⟨r, c', signed_group hk (.group_refused hc (enter_ok (by omega) _) hr), hcause⟩

lemma refused_call (hk : c.current.kind = .name) (ho : c.advance.current.kind = .opening)
    (h : (d + 1 : Nat) ≤ limit →
      TooDeep limit (Arguments limit (d + 1) (c.advance.advance.opened d c.advance.current))) :
    TooDeep limit (Reads limit .signed d c) := by
  have hn : c.next.kind = .opening := by rw [← current_advance, ho]
  by_cases hd : limit < d + 1
  · exact ⟨_, _, signed_call hk hn (.call_deep (enter_refused hd _)), rfl⟩
  obtain ⟨r, c', hr, hcause⟩ := h (by omega)
  exact ⟨r, c', signed_call hk hn (.call_refused (enter_ok (by omega) _) hr), hcause⟩

lemma overflows_unary {op : Unary} (ht : Overflows limit t) : Overflows limit (.unary op t) := by
  intro d c rest h hr hd hl
  rw [Tree.levels] at hl
  have hk : c.current.kind = .unary op := h.kind
  by_cases hd' : limit < d + 1
  · exact ⟨_, _, .signed_deep hk (enter_refused hd' _), rfl⟩
  obtain ⟨r, c', hrt, hcause⟩ :=
    ht (h.advance.opened d c.current) hr (d := d + 1) (by omega) (by omega)
  exact ⟨r, c', .signed_refused hk (enter_ok (by omega) _) hrt, hcause⟩

lemma refused_operand {op : Binary} {u : Tree} {rest : List Token} (hu : Overflows limit u)
    (h : Shown c.advance u.marks rest) (hrest : headKind rest = .closing) (hd : (d : Int) ≤ limit)
    (hl : limit < (d + op.rightDepth u.levels : Nat)) : TooDeep limit (Operand limit op d c) := by
  have hopen := not_opening_of_kind (.inr hrest)
  cases ha : op.rightAssociative with
  | false =>
    rw [Binary.rightDepth_of_left ha] at hl
    obtain ⟨r, c', hr, hcause⟩ := hu h hopen hd hl
    exact ⟨r, c', .left ha (.chain_refused hr), hcause⟩
  | true =>
    rw [Binary.rightDepth_of_right ha] at hl
    by_cases hd' : limit < d + 1
    · exact ⟨_, _, .deep ha (enter_refused hd' _), rfl⟩
    · obtain ⟨r, c', hr, hcause⟩ :=
        hu (h.opened d c.current) hopen (d := d + 1) (by omega) (by omega)
      exact ⟨r, c', .right ha (enter_ok (by omega) _) (.chain_refused hr), hcause⟩

/-- If the left side does not take too many levels, the right side does. -/
lemma overflows_binary {op : Binary} {l u : Tree} (hw : l.Written) (hl : Returns limit l)
    (hl' : Overflows limit l) (hu : Overflows limit u) : Overflows limit (.binary op l u) := by
  intro d c rest h _ _ hlt
  rw [Tree.levels] at hlt
  have hk : c.current.kind = .opening := h.kind
  have hne : c.advance.current.kind ≠ .closing := h.advance.kind ▸ (firstKind_marks hw _ _).1
  refine refused_group hk hne fun hd => ?_
  obtain ⟨rest₁, hm, hkind₁, hnext₁⟩ := (h.advance.opened d c.current).split
  have hopen : headKind rest₁ ≠ .opening := by
    rw [hkind₁]
    exact nofun
  by_cases hlt₁ : limit < (d + 1 + l.levels : Nat)
  · obtain ⟨e, c', hr, hcause⟩ := hl' hm hopen hd hlt₁
    exact ⟨e, c', .sequence_first_refused (.chain_refused hr), hcause⟩
  obtain ⟨c₁, hlr, hrest₁⟩ := hl hm hopen (d := d + 1) (by omega)
  have hop := hnext₁ c₁ hrest₁
  obtain ⟨rest₂, hum, hkind₂, -⟩ := hop.advance.split
  have hlt₂ : limit < (d + 1 + op.rightDepth u.levels : Nat) := by omega
  obtain ⟨e, c', hur, hcause⟩ := refused_operand hu hum hkind₂ hd hlt₂
  have hlevel : elementLevel ≤ op.level := op.elementLevel_le
  exact ⟨e, c', .sequence_first_refused (.chain hlr (.refused hop.kind hlevel hur)), hcause⟩

/-- Of elements, the first one is refused or the ones after it. -/
lemma refused_elements {rest : List Token} (ht : Returns limit t) (ht' : Overflows limit t)
    (hts : MoreOverflows limit ts) (h : Shown c (Tree.listMarks (t :: ts)) rest)
    (hr : headKind rest = .closing) (hd : (d : Int) ≤ limit)
    (hl : limit < (d + Tree.mostLevels (t :: ts) : Nat)) :
    TooDeep limit (Reads limit (.chain elementLevel) d c) ∨
    ∃ c', Reads limit (.chain elementLevel) d c (.ok t c') ∧
      c'.current.kind = firstKind (Tree.moreMarks ts) rest ∧ TooDeep limit (More limit d c') := by
  rw [Tree.mostLevels] at hl
  obtain ⟨rest₁, h₁, hkind₁, hnext₁⟩ := h.split
  have hkind := (separated_more ts).firstKind hr
  rw [← hkind₁] at hkind
  by_cases hl₁ : limit < (d + t.levels : Nat)
  · obtain ⟨r, c', hr, hcause⟩ := ht' h₁ (not_opening_of_kind hkind) hd hl₁
    exact .inl ⟨r, c', .chain_refused hr, hcause⟩
  · obtain ⟨c₁, hr₁, hrest₁⟩ := ht h₁ (not_opening_of_kind hkind) (d := d) (by omega)
    have hmore := hnext₁ c₁ hrest₁
    have hchain := chain_one hr₁ (not_binary_of_kind hrest₁ hkind) elementLevel
    exact .inr ⟨c₁, hchain, hmore.kind, hts hmore hr hd (by omega)⟩

lemma moreOverflows_cons (ht : Returns limit t) (ht' : Overflows limit t)
    (hts : MoreOverflows limit ts) : MoreOverflows limit (t :: ts) := by
  intro d c rest h hr hd hl
  have hk : c.current.kind = .comma := h.kind
  rcases refused_elements ht ht' hts h.advance hr hd hl with
    ⟨r, c', hr, hcause⟩ | ⟨c₁, hr₁, -, r, c₂, hr₂, hcause⟩
  · exact ⟨r, c', .first_refused hk hr, hcause⟩
  · exact ⟨r, c₂, .later_refused hk hr₁ hr₂, hcause⟩

lemma overflows_call {f : String} (hw : t.Written) (ht : Returns limit t) (ht' : Overflows limit t)
    (hts : MoreOverflows limit ts) : Overflows limit (.call f (t :: ts)) := by
  intro d c rest h _ _ hl
  rw [Tree.levels] at hl
  refine refused_call h.kind h.advance.kind fun hd => ?_
  have hin := h.advance.advance.opened d c.advance.current
  have hne := hin.not_closing hw
  obtain ⟨rest₁, hlist, hkind₁, -⟩ := hin.split
  rcases refused_elements ht ht' hts hlist hkind₁ hd (by omega) with
    ⟨r, c', hr, hcause⟩ | ⟨c₁, hr₁, -, r, c₂, hr₂, hcause⟩
  · exact ⟨r, c', .first_refused hne hr, hcause⟩
  · exact ⟨r, c₂, .later_refused hne hr₁ hr₂, hcause⟩

lemma overflows_tuple {u : Tree} (hw : t.Written) (ht : Returns limit t) (ht' : Overflows limit t)
    (hts : MoreOverflows limit (u :: ts)) : Overflows limit (.tuple (t :: u :: ts)) := by
  intro d c rest h _ _ hl
  rw [Tree.levels] at hl
  refine refused_group h.kind (h.advance.not_closing hw) fun hd => ?_
  obtain ⟨rest₁, hlist, hkind₁, -⟩ := (h.advance.opened d c.current).split
  rcases refused_elements ht ht' hts hlist hkind₁ hd (by omega) with
    ⟨r, c', hr, hcause⟩ | ⟨c₁, hr₁, hcomma, r, c₂, hr₂, hcause⟩
  · exact ⟨r, c', .sequence_first_refused hr, hcause⟩
  · exact ⟨r, c₂, .sequence_later_refused hr₁ hcomma hr₂, hcause⟩

mutual

theorem refuses_tree (t : Tree) (ht : t.Written) (hf : t.Finite) : Overflows limit t := by
  match t with
  | .literal v | .name n =>
    intro d c rest _ _ hd hl
    rw [Tree.levels] at hl
    omega
  | .unary op t => exact overflows_unary (refuses_tree t ht hf)
  | .binary op l r =>
    exact overflows_binary ht.1 (reads_tree l ht.1 hf.1) (refuses_tree l ht.1 hf.1)
      (refuses_tree r ht.2 hf.2)
  | .call f [] =>
    intro d c rest h _ _ hl
    rw [Tree.levels, Tree.mostLevels] at hl
    exact refused_call h.kind h.advance.kind fun hd => by omega
  | .call f (t :: ts) =>
    exact overflows_call ht.2.1 (reads_tree t ht.2.1 hf.1) (refuses_tree t ht.2.1 hf.1)
      (refuses_more ts ht.2.2 hf.2)
  | .tuple [] => exact absurd ht.1 (by decide)
  | .tuple [_] => exact absurd ht.1 (by simp)
  | .tuple (t :: u :: ts) =>
    exact overflows_tuple ht.2.1 (reads_tree t ht.2.1 hf.1) (refuses_tree t ht.2.1 hf.1)
      (refuses_more (u :: ts) ht.2.2 hf.2)

lemma refuses_more (ts : List Tree) (ht : Tree.AllWritten ts) (hf : Tree.AllFinite ts) :
    MoreOverflows limit ts := by
  match ts with
  | [] =>
    intro d c rest _ _ hd hl
    rw [Tree.mostLevels] at hl
    omega
  | t :: ts =>
    exact moreOverflows_cons (reads_tree t ht.1 hf.1) (refuses_tree t ht.1 hf.1)
      (refuses_more ts ht.2 hf.2)

end

end

end Builder

end Reckon
