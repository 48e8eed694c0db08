import Mathlib.Tactic.Lemma
import Reckon.Evaluate.Machine

/-!
The errors of operators. An operator that has no result says that arithmetic has none or that it
does not take the kinds of its operands, and nothing else. Equality finds fault with kinds only, at
any depth of tuples.
-/

namespace Reckon

/-- If there is no result, then for an error with the property. -/
def Errs {α : Type} (P : Error → Prop) (r : Except Error α) : Prop :=
  ∀ e, r = .error e → P e

section

variable {α β : Type} {P Q : Error → Prop} {r s : Except Error α}

lemma Errs.ok (a : α) : Errs P (.ok a) :=
  nofun

lemma Errs.error {e : Error} (h : P e) : Errs P (.error e : Except Error α) := by
  rintro _ ⟨⟩
  exact h

lemma Errs.mono (h : Errs P r) (hPQ : ∀ e, P e → Q e) : Errs Q r :=
  fun e he => hPQ e (h e he)

lemma Errs.bind {f : α → Except Error β} (h : Errs P r) (hf : ∀ a, Errs P (f a)) :
    Errs P (r >>= f) := by
  cases r with
  | ok a => exact hf a
  | error e => exact .error (h e rfl)

lemma Errs.map (h : Errs P r) (f : α → β) : Errs P (r.map f) :=
  fun _ he => h _ (Action.map_eq_error he)

lemma Errs.ite {p : Prop} [Decidable p] (hr : Errs P r) (hs : Errs P s) :
    Errs P (if p then r else s) := by
  split
  · exact hr
  · exact hs

end

/-- The error is about the operands of an operator. -/
def Error.OfOperands : Error → Prop
  | .type _ | .arithmetic _ => True
  | _ => False

/-- If there is no result, then because of the operands. -/
def Operates {α : Type} (r : Except Error α) : Prop :=
  ∀ e, r = .error e → e.OfOperands

/-- The error is that arithmetic has no result, or it names the operator of this symbol. -/
def Error.Blames (symbol : String) : Error → Prop
  | .arithmetic _ => True
  | .type f => f.symbol? = some symbol
  | _ => False

lemma Error.Blames.ofOperands {symbol : String} {e : Error} (h : e.Blames symbol) :
    e.OfOperands := by
  cases e <;> trivial

section

variable {α : Type} {symbol : String} {r : Except Error α}

lemma Operates.of_blames (h : Errs (Error.Blames symbol) r) : Operates r :=
  h.mono fun _ => Error.Blames.ofOperands

namespace Integer

lemma blames_check (n : Int) : Errs (Error.Blames symbol) (check n) :=
  .ite (.ok _) (.error trivial)

/-- Integers have the right kind for all arithmetic. -/
lemma blames_apply (a : Arithmetic) (m n : Int) : Errs (Error.Blames symbol) (apply a m n) := by
  cases a with
  | add | sub | mul => exact blames_check _
  | div => exact .ite (.error trivial) (blames_check _)
  | mod => exact .ite (.error trivial) ((blames_check _).map _)
  | pow =>
    exact .ite (.error trivial) <| .ite (.ok _) <| .ite (.ok _) <| .ite (.ok _) <|
      .ite (.error trivial) (blames_check _)

end Integer

end

lemma blames_unary (op : Unary) (v : Value) : Errs (Error.Blames op.symbol) (op.apply v) := by
  cases op <;> cases v
  case neg.int n => exact (Integer.blames_check _).map _
  all_goals first | exact .ok _ | exact .error rfl

lemma blames_arithmetic (a : Arithmetic) (l r : Value) :
    Errs (Error.Blames a.symbol) (a.apply l r) := by
  cases l <;> cases r
  case int.int m n => exact (Integer.blames_apply a m n).map _
  case string.string s t => exact .ite (.ok _) (.error rfl)
  all_goals first | exact .ok _ | exact .error rfl

/-! ### Equality and orderings -/

namespace Value

/-- The error is that two kinds have no equality. -/
def Unequatable (e : Error) : Prop :=
  ∃ a b, e = operands .eq a b

lemma Unequatable.blames {e : Error} (h : Unequatable e) : e.Blames Binary.eq.symbol := by
  obtain ⟨a, b, rfl⟩ := h
  rfl

mutual

lemma unequatable_equal (l r : Value) : Errs Unequatable (l.equal r) := by
  cases l <;> cases r <;> simp only [equal, scalars?]
  case tuple.tuple as bs => exact .ite (unequatable_allEqual as bs) (.ok _)
  all_goals first | exact .ok _ | exact .error ⟨_, _, rfl⟩

lemma unequatable_allEqual (as bs : List Value) : Errs Unequatable (allEqual as bs) := by
  cases as with
  | nil => simpa only [allEqual] using .ok _
  | cons a as =>
    cases bs with
    | nil => simpa only [allEqual] using .ok _
    | cons b bs =>
      rw [allEqual]
      exact (unequatable_equal a b).bind fun _ => .ite (unequatable_allEqual as bs) (.ok _)

end

lemma blames_equal (l r : Value) : Errs (Error.Blames Binary.eq.symbol) (l.equal r) :=
  (unequatable_equal l r).mono fun _ => Unequatable.blames

lemma operates_equal (l r : Value) : Operates (l.equal r) :=
  .of_blames (blames_equal l r)

/-- Scalars that equality tells apart are ordered. -/
lemma tuples_of_unequal {c : Comparison} {l r : Value} {e : Error} (h : l.equal r = .ok false)
    (ho : order c l r = .error e) : l.kind = .tuple ∧ r.kind = .tuple := by
  cases l <;> cases r <;> simp only [equal, scalars?, reduceCtorEq] at h
  case tuple.tuple => exact ⟨rfl, rfl⟩
  case empty.empty => cases h
  all_goals simp only [order, scalars?, reduceCtorEq] at ho

mutual

/-- An ordering of tuples fails as equality of them does, or for lengths if equality
tells them apart. -/
lemma error_order (c : Comparison) (l r : Value) {e : Error} (h : order c l r = .error e)
    (hl : l.kind = .tuple) (hr : r.kind = .tuple) :
    l.equal r = .error e ∨ l.equal r = .ok false ∧ ∃ m n, e = .type (.lengths (.order c) m n) := by
  cases l <;> cases r <;> simp only [kind, reduceCtorEq] at hl hr
  case tuple.tuple as bs =>
    rw [order] at h
    rw [equal]
    split at h
    · next hlen =>
      rw [if_pos hlen]
      exact error_orderFirst c as bs h
    · next hlen =>
      cases h
      rw [if_neg hlen]
      exact .inr ⟨rfl, _, _, rfl⟩

lemma error_orderFirst (c : Comparison) (as bs : List Value) {e : Error}
    (h : orderFirst c as bs = .error e) :
    allEqual as bs = .error e ∨ allEqual as bs = .ok false ∧
      ∃ m n, e = .type (.lengths (.order c) m n) := by
  cases as with
  | nil => simp [orderFirst] at h
  | cons a as =>
    cases bs with
    | nil => simp [orderFirst] at h
    | cons b bs =>
      rw [orderFirst] at h
      rw [allEqual]
      rcases he : a.equal b with e' | _ | _ <;> rw [he] at h
      · exact .inl h
      · -- the first pair that is not equal is itself a pair of tuples
        obtain ⟨ha, hb⟩ := tuples_of_unequal he h
        rcases error_order c a b h ha hb with h' | ⟨-, h'⟩
        · rw [he] at h'
          cases h'
        · exact .inr ⟨rfl, h'⟩
      · exact error_orderFirst c as bs h

end

/-- What are not two tuples an ordering blames on itself. -/
lemma error_order_scalars {c : Comparison} {l r : Value} {e : Error} (h : order c l r = .error e)
    (hne : ¬ (l.kind = .tuple ∧ r.kind = .tuple)) : e = operands (.order c) l r := by
  cases l <;> cases r <;> simp only [order, scalars?, reduceCtorEq] at h
  case tuple.tuple => exact absurd ⟨rfl, rfl⟩ hne
  all_goals exact (Except.error.inj h).symm

lemma operates_order (c : Comparison) (l r : Value) : Operates (l.order c r) := by
  intro e h
  by_cases hk : l.kind = .tuple ∧ r.kind = .tuple
  · rcases error_order c l r h hk.1 hk.2 with he | ⟨-, m, n, rfl⟩
    · exact operates_equal l r e he
    · trivial
  · obtain rfl := error_order_scalars h hk
    trivial

end Value

/-! ### Steps -/

lemma operates_unary (op : Unary) (v : Value) : Operates (op.apply v) :=
  .of_blames (blames_unary op v)

theorem operates_binary (op : Binary) (l r : Value) : Operates (op.apply l r) := by
  cases op with
  | arith a => exact .of_blames (blames_arithmetic a l r)
  | eq | ne => exact Errs.map (l.operates_equal r) _
  | order c => exact Errs.map (Value.operates_order c l r) _
  | and | or => cases l <;> cases r <;> first | exact Errs.ok _ | exact Errs.error trivial

lemma operates_truth (op : Binary) (v : Value) : Operates (op.truth v) := by
  cases v <;> first | exact Errs.ok _ | exact Errs.error trivial

end Reckon
