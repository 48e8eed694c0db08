import Reckon.Proofs.Evaluate.Keeps
import Reckon.Proofs.Limits.Environment
import Reckon.Session.Basic

/-!
What a session remembers of limits. The answers that it keeps are those that the environments of
their questions give, in every session that comes about, so the limits in effect are always those of
the environment; and nothing but a change of the environment changes it, whatever host functions do.
-/

namespace Reckon

open Reckon.Action

/-- The session is in the environment, and the limits that it remembers are right. -/
structure Session.Settled (e : Environment) (s : Session) : Prop where
  environment : s.environment = e
  right : ∀ p ∈ s.limits.entries, p.2 = (Limits.ofEnvironment p.1).1

lemma Recent.mem_of_find? {α β : Type} [DecidableEq α] {r : Recent α β} {a : α} {b : β}
    (h : r.find? a = some b) : (a, b) ∈ r.entries := by
  rw [find?, Option.map_eq_some_iff] at h
  obtain ⟨⟨a', b'⟩, hf, rfl⟩ := h
  have ha : a' = a := by simpa using List.find?_some hf
  exact ha ▸ List.mem_of_find?_eq_some hf

lemma Recent.mem_use {α β : Type} [DecidableEq α] {r : Recent α β} {capacity : Nat} {a : α} {b : β}
    {p : α × β} (h : p ∈ (r.use capacity a b).entries) : p = (a, b) ∨ p ∈ r.entries := by
  rcases List.mem_cons.1 (List.mem_of_mem_take h) with rfl | h
  · exact .inl rfl
  · exact .inr (List.mem_filter.1 h).1

namespace Act

open Evaluate

variable {e : Environment}

lemma settled_note (n : Notice) : Keeps (Session.Settled e) (note n) :=
  .modify fun _ h => ⟨h.environment, h.right⟩

lemma settled_notes (ns : List Notice) : Keeps (Session.Settled e) (ns.forM note) :=
  .forM settled_note ns

/-- The journal takes every notice. -/
lemma notes_apply (ns : List Notice) (s : Session) :
    ns.forM note s = .ok () { s with journal := s.journal ++ ns.toArray } := by
  induction ns generalizing s with
  | nil => rw [Array.append_empty]; rfl
  | cons n ns ih =>
    have hn : (n :: ns).forM note s = ns.forM note { s with journal := s.journal.push n } := rfl
    rw [hn, ih]
    simp

lemma notes_ok (ns : List Notice) (s : Session) : ∃ s', ns.forM note s = .ok () s' :=
  ⟨_, notes_apply ns s⟩

/-- The limits in effect are remembered or new, and are remembered from then on. -/
lemma limits_apply (s : Session) : ∃ (l : Limits) (notices : List Notice),
    ((s.environment, l) ∈ s.limits.entries ∨ l = (Limits.ofEnvironment s.environment).1) ∧
      limits s = (do (notices.forM note : Act Unit); return l : Act Limits)
        { s with limits := s.limits.use memory s.environment l } := by
  cases hf : s.limits.find? s.environment with
  | some l =>
    refine ⟨l, [], .inl (Recent.mem_of_find? hf), ?_⟩
    simp only [limits, get_bind, hf]
    rfl
  | none =>
    refine ⟨_, (Limits.ofEnvironment s.environment).2, .inr rfl, ?_⟩
    simp only [limits, get_bind, hf]
    rfl

/-- The limits in effect are those of the environment. -/
theorem limits_ok {s : Session} (h : s.Settled e) :
    ∃ s', limits s = .ok (Limits.ofEnvironment e).1 s' ∧ s'.Settled e := by
  obtain ⟨rfl, hr⟩ := h
  obtain ⟨l, notices, h, hl⟩ := limits_apply s
  obtain rfl : l = (Limits.ofEnvironment s.environment).1 := h.elim (hr _) id
  have hs : Session.Settled s.environment
      { s with
        limits := s.limits.use memory s.environment (Limits.ofEnvironment s.environment).1 } := by
    refine ⟨rfl, fun p hp => ?_⟩
    rcases Recent.mem_use hp with rfl | hp
    · rfl
    · exact hr p hp
  obtain ⟨s', hn⟩ := notes_ok notices
    { s with limits := s.limits.use memory s.environment (Limits.ofEnvironment s.environment).1 }
  exact ⟨s', by rw [hl, bind_of_ok hn]; rfl, (settled_notes notices).of_ok hs hn⟩

lemma settled_limits : Keeps (Session.Settled e) limits := by
  intro s hs
  obtain ⟨s', h, hs'⟩ := limits_ok hs
  rwa [after_of_ok h]

/-- Neither what stands in the journal nor what is remembered of limits matters to the property. -/
structure Steady (P : Session → Prop) : Prop where
  note : ∀ n, Keeps P (note n)
  limits : Keeps P limits

namespace Steady

variable {P : Session → Prop} (h : Steady P)

include h

lemma nesting (limit : Option Int) : Keeps P (nesting limit) := by
  cases limit with
  | none => exact h.limits.bind fun _ => .pure _
  | some n =>
    refine .get fun s hs => ?_
    exact ((Keeps.forM h.note _).bind fun _ => .pure _) s hs

lemma depth (limit : Option Int) : Keeps P (depth limit) := by
  cases limit with
  | none => exact h.limits.bind fun _ => .pure _
  | some n => exact .pure _

lemma build (source : Option String) (limit : Option Int) (ts : List Token) :
    Keeps P (build source limit ts) :=
  (h.nesting limit).bind fun _ => keeps_lift _

lemma readTree (limit : Option Int) (source : String) : Keeps P (readTree limit source) :=
  (keeps_lift _).bind fun _ => (h.build _ _ _).bind fun _ => (h.note _).bind fun _ => .pure _

lemma readAssignment (limit : Option Int) (source : String) :
    Keeps P (readAssignment limit source) :=
  (keeps_lift _).bind fun _ => (keeps_lift _).bind fun _ => (h.build _ _ _).bind fun _ => .pure _

end Steady

lemma steady_settled : Steady (Session.Settled e) :=
  ⟨settled_note, settled_limits⟩

lemma kept_note (P : Store → Array (String × List Value) → Prop) (n : Notice) :
    Keeps (fun s => P s.store s.calls) (note n) :=
  .modify fun _ h => h

lemma steady_kept (P : Store → Array (String × List Value) → Prop) :
    Steady fun s => P s.store s.calls where
  note := kept_note P
  limits := by
    intro s hs
    obtain ⟨l, notices, -, h⟩ := limits_apply s
    have hnotes : Keeps (fun s => P s.store s.calls) (notices.forM note) :=
      .forM (kept_note P) notices
    rw [after, h]
    exact (hnotes.bind fun _ => .pure l) { s with limits := s.limits.use memory s.environment l } hs

lemma stored_note (P : Store → Prop) (n : Notice) : Keeps (fun s => P s.store) (note n) :=
  kept_note (fun st _ => P st) n

lemma steady_store (P : Store → Prop) : Steady fun s => P s.store :=
  steady_kept fun st _ => P st

/-- Looking at the limits changes neither what is bound nor the record of calls. -/
lemma limits_kept {s : Session} (h : s.Settled e) :
    ∃ s', limits s = .ok (Limits.ofEnvironment e).1 s' ∧
    s'.Settled e ∧ s'.store = s.store ∧ s'.calls = s.calls := by
  obtain ⟨s', hs, hs'⟩ := limits_ok h
  exact ⟨s', hs, hs', (steady_kept (· = s.store ∧ · = s.calls)).limits.of_ok ⟨rfl, rfl⟩ hs⟩

/-! ### Reading -/

lemma limits_total (s : Session) : ∃ l s', limits s = .ok l s' := by
  obtain ⟨l, notices, -, h⟩ := limits_apply s
  obtain ⟨s', hn⟩ := notes_ok notices { s with limits := s.limits.use memory s.environment l }
  exact ⟨l, s', by rw [h, bind_of_ok hn]; rfl⟩

/-- There is always a limit of nesting. -/
lemma nesting_total (limit : Option Int) (s : Session) : ∃ n s', nesting limit s = .ok n s' := by
  cases limit with
  | none =>
    obtain ⟨l, s', h⟩ := limits_total s
    exact ⟨l.nesting, s', bind_of_ok h⟩
  | some n =>
    obtain ⟨s', h⟩ := notes_ok (Limits.cap s.environment.stack n).2 s
    exact ⟨(Limits.cap s.environment.stack n).1, s', bind_of_ok h⟩

lemma depth_total (limit : Option Int) (s : Session) : ∃ n s', depth limit s = .ok n s' := by
  cases limit with
  | none =>
    obtain ⟨l, s', h⟩ := limits_total s
    exact ⟨l.depth, s', bind_of_ok h⟩
  | some n => exact ⟨n, s, rfl⟩

lemma result_lift_bind {α β : Type} (r : Except Error α) (f : α → Act β) (s : Session) :
    result (lift r >>= f) s = r >>= fun a => result (f a) s := by
  cases r <;> rfl

variable {limit : Option Int} {n : Int} {s s' : Session}

lemma result_build (h : nesting limit s = .ok n s') (source : Option String) (ts : List Token)
    {α : Type} (f : Tree → Act α) :
    result (build source limit ts >>= f) s = Tree.build source n ts >>= fun t =>
      result (f t) s' := by
  cases hb : Tree.build source n ts with
  | ok t =>
    have h' : build source limit ts s = .ok t s' := by rw [build, bind_of_ok h, hb]; rfl
    rw [result_bind_of_ok h']
    rfl
  | error e =>
    have h' : build source limit ts s = .error e s' := by rw [build, bind_of_ok h, hb]; rfl
    rw [result_bind_of_error h']
    rfl

/-- A session reads a source as its limit says. -/
lemma result_readTree (h : nesting limit s = .ok n s') (source : String) :
    result (readTree limit source) s = Tree.ofSource n source := by
  rw [readTree, result_lift_bind, Tree.ofSource]
  congr 1
  funext ts
  rw [result_build h]
  cases Tree.build (some source) n ts <;> rfl

lemma result_readAssignment (h : nesting limit s = .ok n s') (source : String) :
    result (readAssignment limit source) s = Tree.ofAssignment n source := by
  rw [readAssignment, result_lift_bind, Tree.ofAssignment]
  congr 1
  funext ts
  rw [result_lift_bind]
  congr 1
  funext r
  exact result_build h _ _ _

/-! ### Bindings and evaluation -/

lemma settled_bindVariable (name : String) (data : Native) :
    Keeps (Session.Settled e) (bindVariable name data) := by
  refine (keeps_lift _).bind fun _ => ?_
  exact (Keeps.modify fun s h => ⟨h.environment, h.right⟩).bind fun _ => settled_note _

lemma settled_unbindVariable (name : String) :
    Keeps (Session.Settled e) (unbindVariable name) :=
  .get fun _ h => ⟨h.environment, h.right⟩

lemma settled_bindFunction (name : String) (f : Function) :
    Keeps (Session.Settled e) (bindFunction name f) :=
  (Keeps.modify fun _ h => ⟨h.environment, h.right⟩).bind fun _ => settled_note _

lemma settled_unbindFunction (name : String) :
    Keeps (Session.Settled e) (unbindFunction name) :=
  .get fun _ h => ⟨h.environment, h.right⟩

lemma keeps_outcome {P : Session → Prop} {α : Type} {a : Act α} (h : Keeps P a) :
    Keeps P (outcome a) := by
  intro s hs
  have hs' := h s hs
  cases hx : a s with
  | ok x s' =>
    rw [after_of_ok hx] at hs'
    simpa [after, outcome, hx] using hs'
  | error r s' =>
    rw [after_of_error hx] at hs'
    simpa [after, outcome, hx] using hs'

section

variable {evaluate : String → Act Value}

lemma settled_perform (h : ∀ text, Keeps (Session.Settled e) (evaluate text)) (p : Proc) :
    Keeps (Session.Settled e) (perform evaluate p) := by
  induction p with
  | give data => exact .pure _
  | fail r => exact .throw _
  | lookup n next ih => exact .get fun s hs => ih _ s hs
  | bind n data next ih => exact (settled_bindVariable n data).bind fun _ => ih
  | unbind n next ih => exact (settled_unbindVariable n).bind ih
  | bindFunction n own body count next _ ih => exact (settled_bindFunction n _).bind fun _ => ih
  | unbindFunction n next ih => exact (settled_unbindFunction n).bind fun _ => ih _
  | evaluate text next ih => exact (keeps_outcome (h text)).bind ih

lemma settled_call (h : ∀ text, Keeps (Session.Settled e) (evaluate text)) (name : String)
    (args : List Value) : Keeps (Session.Settled e) (call evaluate name args) := by
  intro s hs
  rcases call_cases evaluate name args s with ⟨-, h'⟩ | ⟨_, n, -, -, -, h'⟩ | ⟨f, -, -, h'⟩ <;>
    rw [after, h']
  · exact hs
  · exact hs
  · exact ((settled_perform h _).bind fun _ => keeps_lift _) _ ⟨hs.environment, hs.right⟩

lemma settled_evaluateWith (h : ∀ text, Keeps (Session.Settled e) (evaluate text))
    (limit : Option Int) (t : Tree) :
    Keeps (Session.Settled e) (evaluateWith (bindings evaluate) limit t) :=
  (steady_settled.depth limit).bind fun _ => keeps_evaluate (settled_call h) t

end

lemma settled_source (allowance : Nat) (text : String) :
    Keeps (Session.Settled e) (source allowance text) := by
  induction allowance generalizing text with
  | zero => exact .throw _
  | succ allowance ih =>
    exact (steady_settled.readTree none text).bind fun t =>
      (settled_evaluateWith ih none t).bind fun _ =>
      (settled_note _).bind fun _ => .pure _

lemma settled_evaluate (limit : Option Int) (t : Tree) :
    Keeps (Session.Settled e) (Act.evaluate limit t) :=
  settled_evaluateWith (settled_source allowance) limit t

lemma settled_assign (statement : String) : Keeps (Session.Settled e) (assign statement) :=
  (steady_settled.readAssignment none statement).bind fun _ =>
    (settled_evaluate none _).bind fun _ =>
    (settled_bindVariable _ _).bind fun _ => .pure _

end Act

end Reckon
