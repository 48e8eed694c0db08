import Reckon.Proofs.Decimal.Order
import Reckon.Proofs.Evaluate.Meaning
import Reckon.Proofs.Operator.Results
import Reckon.Proofs.Session.Limits
import Reckon.Proofs.Tree.Printed

/-!
Printed values as expressions. Without bindings the tree of a printed value has the value itself,
except where the printed form stands for something else: the digits of the least integer are too
many for an integer, infinite floats and NaN are names that are not bound, and parentheses around
less than two items make no tuple. What comes back is never such a tuple, so it cannot be
identical to one.
-/

namespace Reckon

/-! ### The value of a printed value -/

namespace Value

/-- What values in parentheses make. -/
def group : List Value → Value
  | [] => empty
  | [v] => v
  | v :: w :: vs => tuple (v :: w :: vs)

mutual

/-- The value that the printed form of the value has without bindings. -/
def reread : Value → Except Error Value
  | int n => if n < 0 then Unary.neg.apply (numeral n.natAbs) else .ok (numeral n.natAbs)
  | float x =>
    if x.isNaN then .error (.lookup .variable "nan")
    else if x.isInf then .error (.lookup .variable "inf")
    else .ok (float x)
  | tuple items => do return group (← rereads items)
  | v => .ok v

def rereads : List Value → Except Error (List Value)
  | [] => .ok []
  | v :: vs => do
    let w ← v.reread
    return w :: (← rereads vs)

end

end Value

namespace Tree

open Evaluate (lift)
open Value (numeral unsigned)

section

variable {σ : Type} {b : Bindings σ} {limit : Int} {depth : Nat} {st : σ}

lemma bind_of_lift {α β : Type} {x : Run σ α} {r : Except Error α} {f : α → Run σ β}
    {g : α → Except Error β} (h : x st = (lift r : Run σ α) st)
    (hf : ∀ a, f a st = (lift (g a) : Run σ β) st) :
    (x >>= f) st = (lift (r >>= g) : Run σ β) st := by
  cases r with
  | error e => exact Action.bind_of_error h
  | ok a => exact (Action.bind_of_ok h).trans (hf a)

lemma value_literal (v : Value) (hd : depth ≤ limit) :
    (literal v).value b limit depth st = .ok v st := by
  simp only [value, Int.not_lt.2 hd, if_false]
  rfl

lemma value_unbound {n : String} (h : b.lookup n st = none) (hd : depth ≤ limit) :
    (name n).value b limit depth st = .error (.lookup .variable n) st := by
  simp only [value, Int.not_lt.2 hd, if_false, Action.get_bind, h]
  rfl

lemma value_unary {op : Unary} {t : Tree} {r : Except Error Value} (hd : depth ≤ limit)
    (h : t.value b limit (depth + 1) st = (lift r : Run σ Value) st) :
    (unary op t).value b limit depth st = (lift (r >>= op.apply) : Run σ Value) st := by
  simp only [value, Int.not_lt.2 hd, if_false]
  exact bind_of_lift h fun v => rfl

lemma value_group (ts : List Tree) (hd : depth ≤ limit) :
    (group ts).value b limit depth = .group <$> values b limit ts depth := by
  match ts with
  | [] => funext st; exact value_literal .empty hd
  | [t] => simp [group, values, Value.group]
  | t :: u :: ts =>
    simp only [group, value, Int.not_lt.2 hd, if_false, values, map_eq_pure_bind, bind_assoc,
      pure_bind, Value.group]

lemma value_unsigned (x : Float) (hb : ∀ n, b.lookup n st = none) (hd : depth ≤ limit) :
    (unsigned x).value b limit depth st = (lift (Value.float x).reread : Run σ Value) st := by
  rw [unsigned, Value.reread]
  split
  · exact value_unbound (hb _) hd
  · split
    · exact value_unbound (hb _) hd
    · exact value_literal _ hd

lemma reread_neg (x : Float) :
    ((Value.float (-x)).reread >>= Unary.neg.apply) = (Value.float x).reread := by
  rw [Value.reread, Value.reread, Rounding.isNaN_neg, Rounding.isInf_neg]
  split
  · rfl
  · split
    · rfl
    · exact congrArg (fun y => Except.ok (Value.float y)) (Rounding.float_neg_neg x)

mutual

/-- One level of depth is enough for every value: a minus sign takes it, and tuples take none. -/
lemma value_tree (hb : ∀ n, b.lookup n st = none) (hl : 1 ≤ limit) (v : Value) :
    v.tree.value b limit 0 st = (lift v.reread : Run σ Value) st := by
  have h0 : ((0 : Nat) : Int) ≤ limit := by omega
  have h1 : ((0 + 1 : Nat) : Int) ≤ limit := by omega
  match v with
  | .int n =>
    rw [Value.tree, Value.reread]
    split
    · exact value_unary h0 (r := .ok (numeral n.natAbs)) (value_literal _ h1)
    · exact value_literal _ h0
  | .float x =>
    rw [Value.tree]
    split
    · rw [← reread_neg]
      exact value_unary h0 (value_unsigned (-x) hb h1)
    · exact value_unsigned x hb h0
  | .boolean _ | .string _ | .empty => exact value_literal _ h0
  | .tuple items =>
    rw [Value.tree, Value.reread, value_group _ h0, map_eq_pure_bind]
    exact bind_of_lift (values_trees hb hl items) fun ws => rfl

lemma values_trees (hb : ∀ n, b.lookup n st = none) (hl : 1 ≤ limit) (vs : List Value) :
    values b limit (Value.trees vs) 0 st = (lift (Value.rereads vs) : Run σ (List Value)) st := by
  match vs with
  | [] => rfl
  | v :: vs =>
    exact bind_of_lift (value_tree hb hl v) fun w => bind_of_lift (values_trees hb hl vs) fun ws =>
      rfl

end

end

end Tree

/-! ### Which values come back -/

namespace Value

mutual

/-- At no level is there the least integer, an infinite float, NaN or a tuple of less
than two items. -/
def Printable : Value → Prop
  | int n => n ≠ least
  | float x => x.isInf = false ∧ x.isNaN = false
  | tuple items => 2 ≤ items.length ∧ AllPrintable items
  | _ => True

def AllPrintable : List Value → Prop
  | [] => True
  | v :: vs => v.Printable ∧ AllPrintable vs

end

lemma numeral_natAbs {n : Int} (h : InRange n) (hn : n ≠ least) :
    numeral n.natAbs = int n.natAbs := by
  rw [InRange, least, greatest] at h
  rw [least] at hn
  rw [numeral, greatest, if_pos (by omega)]

mutual

lemma reread_of_printable (v : Value) (hw : v.WellFormed) (h : v.Printable) : v.reread = .ok v := by
  match v with
  | int n =>
    rw [reread, numeral_natAbs hw h]
    split
    · next hn =>
      have hneg : -(n.natAbs : Int) = n := by omega
      have hr : InRange n := hw
      simp only [Unary.apply, Integer.negate, Integer.check, hneg, hr, if_true]
      rfl
    · next hn =>
      have hpos : (n.natAbs : Int) = n := by omega
      rw [hpos]
  | float x =>
    rw [reread, h.1, h.2]
    rfl
  | boolean _ | string _ | empty => rfl
  | tuple items =>
    rw [reread, rereads_of_printable items hw h.2]
    match items, h.1 with
    | _ :: _ :: _, _ => rfl

lemma rereads_of_printable (vs : List Value) (hw : AllWellFormed vs) (h : AllPrintable vs) :
    rereads vs = .ok vs := by
  match vs with
  | [] => rfl
  | v :: vs =>
    rw [rereads, reread_of_printable v hw.1 h.1, rereads_of_printable vs hw.2 h.2]
    rfl

end

mutual

lemma identical_self (v : Value) (h : v.Printable) : v.identical v := by
  match v with
  | int _ | boolean _ | string _ => exact beq_self_eq_true _
  | float x => exact Real.beq_self h.2
  | tuple items => exact allIdentical_self items h.2
  | empty => rfl

lemma allIdentical_self (vs : List Value) (h : AllPrintable vs) : allIdentical vs vs := by
  match vs with
  | [] => rfl
  | v :: vs =>
    rw [allIdentical, identical_self v h.1, allIdentical_self vs h.2]
    rfl

end

/-- The value is no tuple of less than two items. -/
def Proper : Value → Prop
  | tuple items => 2 ≤ items.length
  | _ => True

lemma proper_group {ws : List Value} (h : ∀ w ∈ ws, w.Proper) : (group ws).Proper := by
  match ws with
  | [] => trivial
  | [w] => exact h w List.mem_cons_self
  | _ :: _ :: _ => simp [group, Proper]

lemma length_of_identical {vs ws : List Value} (h : allIdentical vs ws) :
    vs.length = ws.length := by
  induction vs generalizing ws with
  | nil =>
    cases ws with
    | nil => rfl
    | cons => cases h
  | cons v vs ih =>
    cases ws with
    | nil => cases h
    | cons w ws =>
      rw [allIdentical, Bool.and_eq_true] at h
      rw [List.length_cons, List.length_cons, ih h.2]

/-- Values in parentheses are identical to a tuple only if they make one: the value of a single one,
if it is a tuple, has more items. -/
lemma identical_of_group {ws vs : List Value} (hp : ∀ w ∈ ws, w.Proper) (hl : ws.length = vs.length)
    (h : (group ws).identical (tuple vs)) : 2 ≤ vs.length ∧ allIdentical ws vs := by
  match ws with
  | [] => cases h
  | [w] =>
    cases w with
    | tuple items =>
      have hitems : 2 ≤ items.length := hp _ List.mem_cons_self
      rw [length_of_identical h, ← hl, List.length_singleton] at hitems
      omega
    | int | float | boolean | string | empty => cases h
  | _ :: _ :: _ => exact ⟨by rw [← hl]; simp, h⟩

lemma proper_unary (op : Unary) (v : Value) : Yields Proper (op.apply v) := by
  cases v with
  | int n =>
    have h : Yields (fun _ => True) (Integer.negate n) := fun _ _ => trivial
    cases op with
    | neg => exact h.map fun _ _ => trivial
    | pos => exact .ok trivial
    | not => exact .error _
  | float | boolean | string | tuple | empty =>
    cases op <;> first | exact .ok trivial | exact .error _

lemma proper_int (n : Int) : Yields Proper (int n).reread := by
  have hnumeral : (numeral n.natAbs).Proper := by
    rw [numeral]
    split <;> trivial
  rw [reread]
  exact .ite (fun _ => proper_unary _ _) fun _ => .ok hnumeral

/-- The digits of the least integer are read as a float before their sign is. -/
lemma reread_least : ∃ x, (int least).reread = .ok (float x) := by
  rw [reread, if_pos (by decide), numeral, if_neg (by decide)]
  exact ⟨_, rfl⟩

mutual

/-- What a printed value comes back as is no tuple of less than two items, and is identical to the
value only if the value is printable. -/
lemma yields_reread (v : Value) :
    Yields (fun w => w.Proper ∧ (w.identical v → v.Printable)) v.reread := by
  match v with
  | int n =>
    intro w hw
    refine ⟨proper_int n w hw, ?_⟩
    rintro hi rfl
    obtain ⟨x, hx⟩ := reread_least
    cases hw.symm.trans hx
    cases hi
  | float x =>
    rw [reread]
    refine .ite (fun _ => .error _) fun hn => .ite (fun _ => .error _) fun hi =>
      .ok ⟨trivial, fun _ => ?_⟩
    exact ⟨Bool.eq_false_iff.2 hi, Bool.eq_false_iff.2 hn⟩
  | boolean _ | string _ | empty => exact .ok ⟨trivial, fun _ => trivial⟩
  | tuple items =>
    -- a single item that comes back as a tuple is proper, so it has not the length of `items`
    refine (yields_rereads items).bind fun ws ⟨hl, hp, hi⟩ => .ok ⟨proper_group hp, fun h => ?_⟩
    obtain ⟨hlen, h⟩ := identical_of_group hp hl h
    exact ⟨hlen, hi h⟩

lemma yields_rereads (vs : List Value) :
    Yields (fun ws => ws.length = vs.length ∧ (∀ w ∈ ws, w.Proper) ∧
      (allIdentical ws vs → AllPrintable vs))
      (rereads vs) := by
  match vs with
  | [] => exact .ok ⟨rfl, nofun, fun _ => trivial⟩
  | v :: vs =>
    refine (yields_reread v).bind fun w ⟨hw, hv⟩ =>
      (yields_rereads vs).bind fun ws ⟨hl, hp, hi⟩ => .ok ?_
    refine ⟨congrArg Nat.succ hl, List.forall_mem_cons.2 ⟨hw, hp⟩, fun h => ?_⟩
    rw [allIdentical, Bool.and_eq_true] at h
    exact ⟨hv h.1, hi h.2⟩

end

end Value

namespace Session

open Reckon.Action

/-- Without bindings a printed value comes back as it is reread. -/
lemma result_evaluate {depth : Option Int} {d : Int} {s s' : Session}
    (hd : Act.depth depth s = .ok d s') (hl : 1 ≤ d) (hs : s.store = .empty) (v : Value) :
    result (Act.evaluate depth v.tree) s = v.reread := by
  have hs' : s'.store = .empty := ((Act.steady_store (· = .empty)).depth depth).of_ok hs hd
  have hb : ∀ n, Act.names.lookup n s' = none := by
    intro n
    change s'.store.values.get? n = none
    rw [hs']
    rfl
  rw [Act.evaluate, Act.evaluateWith, result_bind_of_ok hd, Tree.evaluate, Evaluate.run_eval_nil,
    result, Tree.value_tree hb hl v]
  cases v.reread <;> rfl

/-- **The printed form of a value is an expression for the value**, unless there is the least
integer, an infinite float, NaN or a tuple of less than two items in it: read and evaluated without
bindings, where the limits leave one level more than the value has tuples inside each other, it
gives an identical value just if there is none of these, and then it gives the value itself. -/
theorem comes_back_iff {v : Value} (hv : v.WellFormed) {nesting depth : Option Int} {n d : Int}
    {s₁ s₁' s₂ s₂' : Session} (hn : Act.nesting nesting s₁ = .ok n s₁') (hvn : v.nesting + 1 ≤ n)
    (hd : Act.depth depth s₂ = .ok d s₂') (hvd : v.nesting + 1 ≤ d) (hs : s₂.store = .empty) :
    let meaning := do
      let t ← result (Act.readTree nesting v.text) s₁
      result (Act.evaluate depth t) s₂
    ((∃ w, meaning = .ok w ∧ w.identical v) ↔ v.Printable) ∧ (v.Printable → meaning = .ok v) := by
  intro meaning
  have hread : result (Act.readTree nesting v.text) s₁ = .ok v.tree := by
    rw [Act.result_readTree hn]
    exact (Tree.spells_value v).ofSource hvn
  have hmeaning : meaning = v.reread := by
    have heval := result_evaluate hd (by omega) hs v
    simp only [meaning, hread]
    exact heval
  have hback : v.Printable → meaning = .ok v :=
    fun hp => hmeaning.trans (Value.reread_of_printable v hv hp)
  refine ⟨⟨?_, fun hp => ⟨v, hback hp, v.identical_self hp⟩⟩, hback⟩
  rintro ⟨w, hw, hi⟩
  exact (Value.yields_reread v w (hmeaning.symm.trans hw)).2 hi

/-- Two tuples inside each other, once with a negative float and a quote and once with
a single item. -/
theorem comes_back_iff_pair :
    let v := Value.tuple [.int (-5), .tuple [.string "a\"", .float (-0.5)]]
    let u := Value.tuple [.int 1, .tuple [.int 2]]
    let meaning (v : Value) := do
      let t ← result (Act.readTree (some 3) v.text) .initial
      result (Act.evaluate (some 3) t) .initial
    (v.WellFormed ∧ v.nesting + 1 ≤ 3 ∧ meaning v = .ok v) ∧
      u.WellFormed ∧ u.nesting + 1 ≤ 3 ∧ ¬ ∃ w, meaning u = .ok w ∧ w.identical u := by
  intro v u meaning
  have hn : ∃ s, Act.nesting (some 3) .initial = .ok 3 s := ⟨_, rfl⟩
  obtain ⟨s, hn⟩ := hn
  have hv : v.WellFormed := by decide
  have hu : u.WellFormed := by decide
  have hint : (-5 : Int) ≠ least := by decide
  have hfloat : (-0.5 : Float).isInf = false ∧ (-0.5 : Float).isNaN = false := by decide
  have hpv : v.Printable := ⟨by decide, hint, ⟨by decide, trivial, hfloat, trivial⟩, trivial⟩
  have hpu : ¬ u.Printable := fun h => absurd h.2.2.1.1 (by decide)
  refine ⟨⟨hv, by decide, (comes_back_iff hv hn (by decide) rfl (by decide) rfl).2 hpv⟩,
    hu, by decide, ?_⟩
  rw [(comes_back_iff hu hn (by decide) rfl (by decide) rfl).1]
  exact hpu

end Session

end Reckon
