import Reckon.Proofs.Evaluate.Meaning
import Reckon.Proofs.Session.Limits

/-!
Sessions with the same store. In one environment they do the same: whatever is asked of them, by a
caller or by a host function, has the same outcome and leaves the same store, since neither the
journal nor the limits that are remembered nor the record of calls matter to it. So what a tree
means depends on the bindings alone.
-/

namespace Reckon

open Reckon.Action Evaluate

/-- The sessions are in the environment, and they have the same store. -/
structure Session.Same (e : Environment) (s t : Session) : Prop where
  left : s.Settled e
  right : t.Settled e
  store : s.store = t.store

variable {e : Environment}

/-- Sessions that differ from these in what does not matter, and have the same store again. -/
lemma Session.Same.change {s t s' t' : Session} (h : s.Same e t)
    (hs : s'.environment = s.environment ∧ s'.limits = s.limits)
    (ht : t'.environment = t.environment ∧ t'.limits = t.limits) (hstore : s'.store = t'.store) :
    s'.Same e t' :=
  ⟨⟨hs.1.trans h.left.environment, hs.2 ▸ h.left.right⟩,
    ⟨ht.1.trans h.right.environment, ht.2 ▸ h.right.right⟩, hstore⟩

namespace Act

/-- The action does the same in sessions with the same store. -/
def Agrees (e : Environment) {α : Type} (x : Act α) : Prop :=
  Relates (Session.Same e) Eq Eq x x

lemma agrees_note (n : Notice) : Agrees e (note n) :=
  .modify fun _ _ h => h.change ⟨rfl, rfl⟩ ⟨rfl, rfl⟩ h.store

lemma agrees_notes (ns : List Notice) : Agrees e (ns.forM note) := by
  induction ns with
  | nil => exact .pure rfl
  | cons n ns ih => exact (agrees_note n).bind_same fun _ => ih

lemma agrees_limits : Agrees e limits := by
  intro s t h
  obtain ⟨s', hs, hs', hstore, -⟩ := limits_kept h.left
  obtain ⟨t', ht, ht', htstore, -⟩ := limits_kept h.right
  rw [hs, ht]
  exact .ok rfl ⟨hs', ht', by rw [hstore, htstore, h.store]⟩

lemma agrees_nesting (limit : Option Int) : Agrees e (nesting limit) := by
  cases limit with
  | none => exact agrees_limits.bind_same fun _ => .pure rfl
  | some n =>
    refine .get fun s t h => ?_
    rw [h.left.environment, h.right.environment]
    exact (agrees_notes _).bind_same fun _ => .pure rfl

lemma relates_depth {R : Session → Session → Prop} (h : Relates R Eq Eq limits limits)
    (limit : Option Int) : Relates R Eq Eq (depth limit) (depth limit) := by
  cases limit with
  | none => exact h.bind_same fun _ => .pure rfl
  | some n => exact .pure rfl

lemma agrees_readTree (limit : Option Int) (source : String) :
    Agrees e (readTree limit source) := by
  refine (relates_lift _).bind_same fun ts => ?_
  refine Relates.bind_same ((agrees_nesting limit).bind_same fun n => relates_lift _) fun t => ?_
  exact (agrees_note _).bind_same fun _ => .pure rfl

/-! ### Bindings -/

lemma agrees_bindVariable (n : String) (data : Native) : Agrees e (bindVariable n data) := by
  refine (relates_lift _).bind_same fun v => Relates.bind_same (.modify fun s t h => ?_) fun _ =>
    agrees_note _
  exact h.change ⟨rfl, rfl⟩ ⟨rfl, rfl⟩ (by rw [h.store])

lemma agrees_unbindVariable (n : String) : Agrees e (unbindVariable n) := by
  intro s t h
  exact .ok (by rw [h.store]) (h.change ⟨rfl, rfl⟩ ⟨rfl, rfl⟩ (by rw [h.store]))

lemma agrees_bindFunction (n : String) (f : Function) : Agrees e (bindFunction n f) := by
  refine Relates.bind_same (.modify fun s t h => ?_) fun _ => agrees_note _
  exact h.change ⟨rfl, rfl⟩ ⟨rfl, rfl⟩ (by rw [h.store])

lemma agrees_unbindFunction (n : String) : Agrees e (unbindFunction n) := by
  intro s t h
  exact .ok (by rw [h.store]) (h.change ⟨rfl, rfl⟩ ⟨rfl, rfl⟩ (by rw [h.store]))

/-! ### Evaluation -/

lemma agrees_outcome {α : Type} {x : Act α} (h : Agrees e x) : Agrees e (outcome x) := by
  intro s t hst
  have h := h s t hst
  generalize hs : x s = r at h
  generalize ht : x t = r' at h
  rw [outcome, hs, outcome, ht]
  cases h with
  | ok h hst' => exact .ok (by rw [h]) hst'
  | error h hst' => exact .ok (by rw [h]) hst'

section

variable {evaluate : String → Act Value}

lemma agrees_perform (h : ∀ text, Agrees e (evaluate text)) (p : Proc) :
    Agrees e (perform evaluate p) := by
  induction p with
  | give data => exact .pure rfl
  | fail r => exact .throw rfl
  | lookup n next ih =>
    refine .get fun s t hst => ?_
    rw [hst.store]
    exact ih _
  | bind n data next ih => exact (agrees_bindVariable n data).bind_same fun _ => ih
  | unbind n next ih => exact (agrees_unbindVariable n).bind_same ih
  | bindFunction n own body count next _ ih => exact (agrees_bindFunction n _).bind_same fun _ => ih
  | unbindFunction n next ih => exact (agrees_unbindFunction n).bind_same fun _ => ih _
  | evaluate text next ih => exact (agrees_outcome (h text)).bind_same ih

/-- Calls end alike if the name has the same function, whose body ends alike. -/
lemma relates_call {R : Session → Session → Prop} {name : String} {args : List Value}
    (hpush : ∀ s t, R s t →
      R { s with calls := s.calls.push (name, args) } { t with calls := t.calls.push (name, args) })
    (hget : ∀ s t, R s t → s.store.functions.get? name = t.store.functions.get? name)
    (hbody : ∀ s t f, R s t → s.store.functions.get? name = some f →
      Relates R Eq Eq (perform evaluate (f.body args)) (perform evaluate (f.body args))) :
    Relates R Eq Eq (call evaluate name args) (call evaluate name args) := by
  refine .get fun s t hst => ?_
  rw [← hget s t hst]
  cases hf : s.store.functions.get? name with
  | none => exact .throw rfl
  | some f =>
    have hrun : Relates R Eq Eq
        (do
          modify fun s => { s with calls := s.calls.push (name, args) }
          lift (← perform evaluate (f.body args)).toValue : Act Value)
        (do
          modify fun s => { s with calls := s.calls.push (name, args) }
          lift (← perform evaluate (f.body args)).toValue : Act Value) := by
      refine Relates.bind_same (.modify hpush) fun _ => ?_
      exact (hbody s t f hst hf).bind_same fun _ => relates_lift _
    rcases f with ⟨own, body, _ | n⟩
    · exact hrun
    · exact .ite Iff.rfl (.throw rfl) hrun

lemma agrees_call (h : ∀ text, Agrees e (evaluate text)) (name : String) (args : List Value) :
    Agrees e (call evaluate name args) :=
  relates_call (fun _ _ hst => hst.change ⟨rfl, rfl⟩ ⟨rfl, rfl⟩ hst.store)
    (fun _ _ hst => by rw [hst.store])
    fun _ _ _ _ _ => agrees_perform h _

lemma agrees_bindings (h : ∀ text, Agrees e (evaluate text)) :
    (bindings evaluate).Relates (Session.Same e) (bindings evaluate) where
  lookup {n s t} hst := by
    change s.store.values.get? n = t.store.values.get? n
    rw [hst.store]
  call := agrees_call h

lemma agrees_evaluateWith (h : ∀ text, Agrees e (evaluate text)) (limit : Option Int) (t : Tree) :
    Agrees e (evaluateWith (bindings evaluate) limit t) :=
  (relates_depth agrees_limits limit).bind_same fun _ => relates_evaluate (agrees_bindings h) _ t

end

lemma agrees_source (allowance : Nat) (text : String) : Agrees e (source allowance text) := by
  induction allowance generalizing text with
  | zero => exact .throw rfl
  | succ allowance ih =>
    refine (agrees_readTree none text).bind_same fun t => ?_
    refine (agrees_evaluateWith ih none t).bind_same fun v => ?_
    exact (agrees_note _).bind_same fun _ => .pure rfl

/-- What a tree is evaluated to, and what is bound afterwards, depends on the bindings alone. -/
theorem agrees_evaluate (limit : Option Int) (t : Tree) : Agrees e (Act.evaluate limit t) :=
  agrees_evaluateWith (agrees_source allowance) limit t

end Act

end Reckon
