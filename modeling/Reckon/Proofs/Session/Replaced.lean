import Reckon.Proofs.Session.Alike

/-!
Variables and the values that they are bound to. A tree is evaluated alike with a variable and with
its value in the place of the variable, in two sessions that agree on the names of the tree but for
the variable, if the functions that it calls depend on their arguments only and bind nothing. So
what is bound to names that the tree does not mention is of no consequence.
-/

namespace Reckon

open Reckon.Action Evaluate

/-- The sessions have the stores of these two, and the same calls have been made since. -/
structure Session.Since (e : Environment) (a b s t : Session) : Prop where
  left : s.Settled e
  right : t.Settled e
  stores : s.store = a.store ∧ t.store = b.store
  calls : ∃ made, s.calls = a.calls ++ made ∧ t.calls = b.calls ++ made

/-- The function depends on its arguments only and binds nothing: whatever is bound, it ends alike,
makes the same calls and leaves the store as it was. -/
def Function.Closed (e : Environment) (f : Function) : Prop :=
  ∀ a b args, Relates (Session.Since e a b) Eq Eq
    (Act.perform (Act.source Act.allowance) (f.body args))
    (Act.perform (Act.source Act.allowance) (f.body args))

variable {e : Environment} {a b s t : Session} {ρ : String → Option Value} {u : Tree}

lemma Session.Since.start (ha : a.Settled e) (hb : b.Settled e) : Session.Since e a b a b :=
  ⟨ha, hb, ⟨rfl, rfl⟩, #[], by simp, by simp⟩

/-- Calls that are recorded on both sides. -/
lemma Session.Since.push (h : Session.Since e a b s t) (call : String × List Value) :
    Session.Since e a b { s with calls := s.calls.push call }
      { t with calls := t.calls.push call } := by
  obtain ⟨made, hs, ht⟩ := h.calls
  refine ⟨⟨h.left.environment, h.left.right⟩, ⟨h.right.environment, h.right.right⟩, h.stores,
    made.push call, ?_, ?_⟩
  · simp [hs]
  · simp [ht]

namespace Act

/-- A function that asks for nothing is closed. -/
lemma closed_of_answers {f : Function}
    (h : ∀ args, (∃ data, f.body args = .give data) ∨ ∃ r, f.body args = .fail r) : f.Closed e := by
  intro a b args
  rcases h args with ⟨data, h⟩ | ⟨r, h⟩ <;> rw [h]
  · exact .pure rfl
  · exact .throw rfl

lemma since_limits : Relates (Session.Since e a b) Eq Eq limits limits := by
  intro s t h
  obtain ⟨s', hs, hs', hstore, hcalls⟩ := limits_kept h.left
  obtain ⟨t', ht, ht', htstore, htcalls⟩ := limits_kept h.right
  rw [hs, ht]
  refine .ok rfl ⟨hs', ht', ?_, ?_⟩
  · rw [hstore, htstore]
    exact h.stores
  · rw [hcalls, htcalls]
    exact h.calls

lemma since_evaluate (limit : Option Int)
    (hreplaced : ∀ n v, u.Reads n → ρ n = some v → a.store.values.get? n = some v)
    (hvalues : ∀ n, u.Reads n → ρ n = none → a.store.values.get? n = b.store.values.get? n)
    (hfunctions : ∀ f, u.Calls f → a.store.functions.get? f = b.store.functions.get? f)
    (hclosed : ∀ f g, u.Calls f → a.store.functions.get? f = some g → g.Closed e) :
    Relates (Session.Since e a b) Eq Eq (evaluate limit u) (evaluate limit (u.instantiate ρ)) := by
  refine (relates_depth since_limits limit).bind_same fun depth =>
    evaluate_instantiate ⟨?_, ?_, ?_⟩ depth
  · intro n v s t hn hv hst
    change s.store.values.get? n = some v
    rw [hst.stores.1]
    exact hreplaced n v hn hv
  · intro n s t hn hv hst
    change s.store.values.get? n = t.store.values.get? n
    rw [hst.stores.1, hst.stores.2]
    exact hvalues n hn hv
  · intro f hf args
    refine relates_call (fun _ _ hst => hst.push _) (fun s t hst => ?_) fun s t g hst hg => ?_
    · rw [hst.stores.1, hst.stores.2]
      exact hfunctions f hf
    · rw [hst.stores.1] at hg
      exact hclosed f g hf hg a b args

end Act

/-! ### Bindings whose functions are given by their results -/

section

variable {σ τ : Type} {p : Bindings σ} {q : Bindings τ}
  {g : String → List Value → Except Error Value} {st : σ} {st' : τ}

/-- The states have not changed, and the same calls have been recorded. -/
def Unchanged (st : σ) (st' : τ) (r : σ × List (String × List Value))
    (r' : τ × List (String × List Value)) : Prop :=
  r.1 = st ∧ r'.1 = st' ∧ r.2 = r'.2

lemma agree_recorded (hreplaced : ∀ n v, u.Reads n → ρ n = some v → p.lookup n st = some v)
    (hlookup : ∀ n, u.Reads n → ρ n = none → p.lookup n st = q.lookup n st')
    (hcall : ∀ f args, u.Calls f → p.call f args = lift (g f args) ∧
    q.call f args = lift (g f args)) :
    p.recorded.Agree (Unchanged st st') ρ q.recorded u where
  replaced := by
    rintro n v ⟨_, made⟩ ⟨_, _⟩ hn hv ⟨rfl, rfl, rfl⟩
    exact hreplaced n v hn hv
  lookup := by
    rintro n ⟨_, made⟩ ⟨_, _⟩ hn hv ⟨rfl, rfl, rfl⟩
    exact hlookup n hn hv
  call := by
    rintro f hf args ⟨_, made⟩ ⟨_, _⟩ ⟨rfl, rfl, rfl⟩
    simp only [Bindings.recorded, hcall f args hf]
    cases g f args with
    | ok v => exact .ok rfl ⟨rfl, rfl, rfl⟩
    | error r => exact .error rfl ⟨rfl, rfl, rfl⟩

end

/-- **A variable may be replaced by its value.** In two sessions that agree on what the tree
mentions, but for the variable `x`, which is bound to `v` in the first, the tree and the tree with
`v` in the place of `x` have the same value or the same error, after the same calls, under every
limit; nothing is bound meanwhile. The functions that the tree calls are closed; of any bindings
whose functions are given by their results the same holds. The tree with `v` in the place of `x`
does not read `x` and calls what the tree calls, a function `x` included; if the tree does not read
`x`, it is the tree itself. -/
theorem Tree.replaced_alike (t : Tree) (x : String) (v : Value) :
    (∀ (e : Environment) (a b : Session) (limit : Option Int), a.Settled e → b.Settled e →
      (t.Reads x → a.store.values.get? x = some v) →
      (∀ n, t.Reads n → n ≠ x → a.store.values.get? n = b.store.values.get? n) →
      (∀ f, t.Calls f → a.store.functions.get? f = b.store.functions.get? f) →
      (∀ f g, t.Calls f → a.store.functions.get? f = some g → g.Closed e) →
      Alike (Session.Since e a b) Eq Eq (Act.evaluate limit t a)
        (Act.evaluate limit (t.replace x v) b)) ∧
    (∀ {σ τ : Type} (p : Bindings σ) (q : Bindings τ)
      (g : String → List Value → Except Error Value) (limit : Int) (st : σ) (st' : τ),
      (t.Reads x → p.lookup x st = some v) →
      (∀ n, t.Reads n → n ≠ x → p.lookup n st = q.lookup n st') →
      (∀ f args, t.Calls f → p.call f args = lift (g f args) ∧ q.call f args = lift (g f args)) →
      Alike (Unchanged st st') Eq Eq (t.evaluate p.recorded limit (st, []))
        ((t.replace x v).evaluate q.recorded limit (st', []))) ∧
    ¬ (t.replace x v).Reads x ∧ (∀ f, (t.replace x v).Calls f ↔ t.Calls f) ∧
    (¬ t.Reads x → t.replace x v = t) := by
  refine ⟨?_, ?_, fun h => (reads_replace.1 h).2 rfl, fun f => calls_replace, replace_eq_self⟩
  · intro e a b limit ha hb hx hvalues hfunctions hclosed
    refine Act.since_evaluate limit ?_ ?_ hfunctions hclosed a b (.start ha hb)
    · intro n w hn h
      obtain ⟨rfl, rfl⟩ := only_eq_some.1 h
      exact hx hn
    · exact fun n hn h => hvalues n hn (only_eq_none.1 h)
  · intro σ τ p q g limit st st' hx hlookup hcall
    have hagree : p.recorded.Agree (Unchanged st st') (only x v) q.recorded t := by
      refine agree_recorded ?_ (fun n hn h => hlookup n hn (only_eq_none.1 h)) hcall
      intro n w hn h
      obtain ⟨rfl, rfl⟩ := only_eq_some.1 h
      exact hx hn
    exact evaluate_instantiate hagree limit _ _ ⟨rfl, rfl, rfl⟩

/-- The variable `x` is replaced in `(x, x(x, 1))`, where `x` is also a function, and bound
otherwise in the second session. -/
theorem Tree.replaced_alike_shared :
    let pair : Function := ⟨"pair", fun args => .give (.value (.tuple args)), none⟩
    let a : Session := { Session.initial with
      store := ⟨Names.empty.insert "x" (.int 2), Names.empty.insert "x" pair⟩ }
    let b : Session := { Session.initial with
      store := ⟨Names.empty.insert "x" (.int 9), Names.empty.insert "x" pair⟩ }
    let t : Tree := .tuple [.name "x", .call "x" [.name "x", .literal (.int 1)]]
    pair.Closed .initial ∧
      Alike (Session.Since .initial a b) Eq Eq (Act.evaluate (some 1) t a)
        (Act.evaluate (some 1) (t.replace "x" (.int 2)) b) ∧
      result (Act.evaluate (some 1) t) a = .ok (.tuple [.int 2, .tuple [.int 2, .int 1]]) := by
  intro pair a b t
  have ha : a.Settled .initial := ⟨rfl, nofun⟩
  have hb : b.Settled .initial := ⟨rfl, nofun⟩
  have hpair : pair.Closed .initial := Act.closed_of_answers fun args => .inl ⟨_, rfl⟩
  have hvalues : ∀ n, n ≠ "x" → a.store.values.get? n = b.store.values.get? n := fun n hn => by
    rw [Names.get?_insert, Names.get?_insert, if_neg hn, if_neg hn]
  have hclosed : ∀ n f, a.store.functions.get? n = some f → f.Closed .initial := by
    intro n f h
    rw [Names.get?_insert] at h
    split at h
    · cases h
      exact hpair
    · cases h
  have halike := (replaced_alike t "x" (.int 2)).1 .initial a b (some 1) ha hb (fun _ => rfl)
    (fun n _ => hvalues n)
    (fun _ _ => rfl) fun n f _ => hclosed n f
  refine ⟨hpair, halike, ?_⟩
  have hvalue : Act.evaluate (some 1) t a = t.value Act.names 1 0 a := by
    rw [← run_eval_nil]
    rfl
  rw [result, hvalue]
  rfl

end Reckon
