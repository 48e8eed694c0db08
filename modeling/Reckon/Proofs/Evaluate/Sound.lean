import Reckon.Proofs.Evaluate.Depth
import Reckon.Proofs.Evaluate.Keeps
import Reckon.Proofs.Operator.Results

/-!
Evaluations among well-formed values. If the literals of a tree and all that names stand for are
well-formed, then so is every value that the machine holds at any moment, and the one that it ends
with. An error is one that evaluation documents, or a function that the machine calls ends with it.
-/

namespace Reckon

/-- The error is one that evaluation gives for a name, for operands, for arguments or
for the depth. -/
def Error.OfEvaluation : Error → Prop
  | .lookup .. | .type _ | .arity .. | .arithmetic _ | .depth _ => True
  | _ => False

lemma Error.OfOperands.ofEvaluation {e : Error} (h : e.OfOperands) : e.OfEvaluation := by
  cases e <;> trivial

open Reckon.Action

variable {σ : Type}

/-- In every state with the property names stand for well-formed values, and calls with well-formed
arguments keep the property and give well-formed values. -/
structure Bindings.Sound (P : σ → Prop) (b : Bindings σ) : Prop where
  lookup : ∀ {n st v}, P st → b.lookup n st = some v → v.WellFormed
  call : ∀ {f args}, Value.AllWellFormed args → Gives P Value.WellFormed (b.call f args)

namespace Evaluate

variable {P : σ → Prop} {b : Bindings σ} {limit : Int}

/-- The trees that are still to be evaluated are well-formed. -/
def Step.WellFormed : Step → Prop
  | eval t _ => t.WellFormed
  | left _ r _ => r.WellFormed
  | _ => True

structure Machine.Sound (P : σ → Prop) (m : Machine σ) : Prop where
  work : ∀ s ∈ m.work, s.WellFormed
  values : ∀ v ∈ m.values, v.WellFormed
  state : P m.state

lemma sound_start {t : Tree} {st : σ} (ht : t.WellFormed) (hs : P st) :
    (Machine.start t st).Sound P := by
  refine ⟨?_, nofun, hs⟩
  intro s h
  rw [List.mem_singleton.1 h]
  exact ht

lemma wellFormed_evals {ts : List Tree} (h : Tree.AllWellFormed ts) (depth : Nat) :
    ∀ s ∈ evals depth ts, s.WellFormed := by
  induction ts with
  | nil => simp [evals]
  | cons t ts ih =>
    rw [evals, List.map_cons, ← evals]
    intro s hs
    rcases List.mem_cons.1 hs with rfl | hs
    · exact h.1
    · exact ih h.2 s hs

/-- Values that are taken, and those that are left, come from the stack. -/
lemma wellFormed_take {count : Nat} {values taken rest : List Value}
    (h : take count values = some (taken, rest)) (hv : ∀ v ∈ values, v.WellFormed) :
    Value.AllWellFormed taken ∧ ∀ v ∈ rest, v.WellFormed := by
  obtain ⟨-, rfl, rfl⟩ := take_eq_some.1 h
  rw [Value.allWellFormed_iff]
  exact ⟨fun v h => hv v (List.mem_of_mem_take (List.mem_reverse.1 h)),
    fun v h => hv v (List.mem_of_mem_drop h)⟩

/-- What a piece of work leaves is well-formed, and so is the state, if the bindings are sound. -/
lemma sound_does (hb : b.Sound P) {s : Step} {values values' : List Value} {more : List Step}
    {st st' : σ} (h : Does b s values st more values' st') (hs : s.WellFormed)
    (hv : ∀ v ∈ values, v.WellFormed) (hst : P st) : Machine.Sound P ⟨more, values', st'⟩ := by
  have push : ∀ {w : Value} {rest : List Value} {st : σ}, w.WellFormed →
      (∀ v ∈ rest, v.WellFormed) → P st → Machine.Sound P ⟨[], w :: rest, st⟩ :=
    fun hw hrest hst => ⟨nofun, List.forall_mem_cons.2 ⟨hw, hrest⟩, hst⟩
  have apart : ∀ {ts : List Tree} {depth : Nat} {last : Step}, Tree.AllWellFormed ts →
      last.WellFormed → Machine.Sound P ⟨evals depth ts ++ [last], values, st⟩ := by
    refine fun hts hlast => ⟨fun s h => ?_, hv, hst⟩
    rcases List.mem_append.1 h with h | h
    · exact wellFormed_evals hts _ s h
    · exact List.mem_singleton.1 h ▸ hlast
  cases h with
  | literal => exact push hs hv hst
  | name h => exact push (hb.lookup hst h) hv hst
  | unary => exact ⟨by simpa [Step.WellFormed, Tree.WellFormed] using hs, hv, hst⟩
  | logical h => exact ⟨by simpa [Step.WellFormed] using ⟨hs.1, hs.2⟩, hv, hst⟩
  | binary h => exact ⟨by simpa [Step.WellFormed] using ⟨hs.1, hs.2⟩, hv, hst⟩
  | call => exact apart hs trivial
  | tuple => exact apart hs.2 trivial
  | applied h =>
    obtain ⟨hv, hrest⟩ := List.forall_mem_cons.1 hv
    exact push (yields_unary _ hv _ h) hrest hst
  | combined h =>
    obtain ⟨-, hv⟩ := List.forall_mem_cons.1 hv
    obtain ⟨hl, hrest⟩ := List.forall_mem_cons.1 hv
    exact push (yields_binary _ hl _ h) hrest hst
  | decided h hc => exact push trivial (List.forall_mem_cons.1 hv).2 hst
  | undecided h hc =>
    exact ⟨by simpa [Step.WellFormed] using hs, (List.forall_mem_cons.1 hv).2, hst⟩
  | right h => exact push trivial (List.forall_mem_cons.1 hv).2 hst
  | called ht h =>
    obtain ⟨hargs, hrest⟩ := wellFormed_take ht hv
    obtain ⟨hw, hst'⟩ := (hb.call hargs).of_ok hst h
    exact push hw hrest hst'
  | collected ht =>
    obtain ⟨hitems, hrest⟩ := wellFormed_take ht hv
    exact push hitems hrest hst

/-- What is sound stays sound, round by round. -/
theorem Rounds.sound (hb : b.Sound P) {n : Nat} {m m' : Machine σ} (h : Rounds b limit n m m')
    (hm : m.Sound P) : m'.Sound P := by
  induction h with
  | none m => exact hm
  | next h _ ih =>
    obtain ⟨hwork, hvalues, hst⟩ := hm
    obtain ⟨hs, hwork⟩ := List.forall_mem_cons.1 hwork
    obtain ⟨hmore, hvalues, hst⟩ := sound_does hb (does_step h) hs hvalues hst
    exact ih ⟨List.forall_mem_append.2 ⟨hmore, hwork⟩, hvalues, hst⟩

/-! ### Errors -/

/-- The machine comes to a call that ends with the error. -/
def Called (b : Bindings σ) (limit : Int) (t : Tree) (st : σ) (e : Error) : Prop :=
  ∃ n f count work values args rest st₁ st₂,
    Rounds b limit n (.start t st) ⟨.call f count :: work, values, st₁⟩ ∧
      take count values = some (args, rest) ∧ b.call f args st₁ = .error e st₂

lemma ofEvaluation_or_called {t : Tree} {st st' : σ} {e : Error}
    (h : t.evaluate b limit st = .error e st') : e.OfEvaluation ∨ Called b limit t st e := by
  obtain ⟨n, s, work, values, st₁, hr, hf⟩ := exists_fails h
  cases hf with
  | deep => exact .inl trivial
  | unbound => exact .inl trivial
  | operands he => exact .inl he.ofEvaluation
  | unsupplied hlt => exact absurd hr.supplied (by simpa [Machine.Supplied] using hlt)
  | call ht hc => exact .inr ⟨n, _, _, work, values, _, _, st₁, _, hr, ht, hc⟩

/-- A piece of work that fails leaves the state as it is, or it is a call that fails. -/
lemma state_of_error {s : Step} {values : List Value} {st st' : σ} {e : Error}
    (h : step b limit s values st = .error e st') :
    st' = st ∨ ∃ f count args rest, s = .call f count ∧ take count values = some (args, rest) ∧
      b.call f args st = .error e st' := by
  by_cases hs : ∃ f count, s = .call f count
  · obtain ⟨f, count, rfl⟩ := hs
    simp only [step] at h
    cases ht : take count values with
    | none => rw [ht] at h; cases h; exact .inl rfl
    | some taken =>
      rw [ht] at h
      rcases bind_eq_error.1 h with h | ⟨v, st₁, -, h⟩
      · exact .inr ⟨f, count, _, _, rfl, ht, h⟩
      · cases h
  · have hkeep : Keeps (· = st) (step b limit s values) :=
      keeps_step (fun f count _ h => absurd ⟨f, count, h⟩ hs) values
    have := hkeep st rfl
    rw [after_of_error h] at this
    exact .inl this

theorem gives_evaluate (hb : b.Sound P) {t : Tree} (ht : t.WellFormed) :
    Gives P Value.WellFormed (t.evaluate b limit) := by
  intro st hst
  obtain ⟨n, m, hm, hend⟩ : ∃ n m, Rounds b limit n (.start t st) m ∧
      Ends b limit m (t.evaluate b limit st) := exists_ends (by simp [Settles, Step.pops])
  have hsound := hm.sound hb (sound_start ht hst)
  generalize t.evaluate b limit st = res at hend
  cases hend with
  | value v st' => exact ⟨hsound.values v List.mem_cons_self, hsound.state⟩
  | error h =>
    rcases state_of_error h with rfl | ⟨f, count, args, rest, rfl, htake, hcall⟩
    · exact hsound.state
    · exact (hb.call (wellFormed_take htake hsound.values).1).of_error hsound.state hcall

end Evaluate

end Reckon
