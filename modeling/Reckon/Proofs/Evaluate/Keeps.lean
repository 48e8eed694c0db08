import Reckon.Proofs.Evaluate.Rounds

/-!
What an evaluation does to the state. Only functions that are called change it, so it keeps every
property that each of them keeps.
-/

namespace Reckon.Evaluate

open Reckon.Action

variable {σ : Type} {P : σ → Prop} {b : Bindings σ} {limit : Int}

lemma keeps_lift {α : Type} (r : Except Error α) : Keeps P (lift r : Run σ α) := by
  cases r with
  | ok a => exact .pure a
  | error e => exact .throw e

lemma keeps_step {s : Step} (hb : ∀ f count args, s = .call f count → Keeps P (b.call f args))
    (values : List Value) : Keeps P (step b limit s values) := by
  cases s with
  | eval t depth =>
    simp only [step]
    refine .ite (.throw _) ?_
    cases t with
    | name n =>
      refine .get fun st hst => ?_
      cases b.lookup n st <;> exact hst
    | binary op l r => exact .ite (.pure _) (.pure _)
    | literal | unary | call | tuple => exact .pure _
  | unary op =>
    cases values with
    | nil => exact .throw _
    | cons v values => exact (keeps_lift _).bind fun _ => .pure _
  | binary op =>
    rcases values with _ | ⟨r, _ | ⟨l, values⟩⟩
    · exact .throw _
    · exact .throw _
    · exact (keeps_lift _).bind fun _ => .pure _
  | left op r depth =>
    cases values with
    | nil => exact .throw _
    | cons v values => exact (keeps_lift _).bind fun _ => .ite (.pure _) (.pure _)
  | right op =>
    cases values with
    | nil => exact .throw _
    | cons v values => exact (keeps_lift _).bind fun _ => .pure _
  | call f count =>
    simp only [step]
    cases take count values with
    | none => exact .throw _
    | some taken => exact (hb f count taken.1 rfl).bind fun _ => .pure _
  | tuple count =>
    simp only [step]
    cases take count values with
    | none => exact .throw _
    | some taken => exact .pure _

/-- What every function keeps, every run keeps. -/
lemma keeps_run (hb : ∀ f args, Keeps P (b.call f args)) (work : List Step) (values : List Value) :
    Keeps P (run b limit work values) := by
  induction hw : workload work using Nat.strongRecOn generalizing work values with
  | ind w ih =>
    subst hw
    intro st hst
    cases work with
    | nil => rcases values with _ | ⟨v, _ | ⟨w, values⟩⟩ <;> simpa [run, after] using hst
    | cons s work =>
      have hs : P (after (step b limit s values) st) :=
        keeps_step (fun f _ args _ => hb f args) values st hst
      rw [run_cons]
      cases h : step b limit s values st with
      | error e st' =>
        rw [after_of_error h] at hs
        rwa [after_of_error (bind_of_error h)]
      | ok r st' =>
        rw [after_of_ok h] at hs
        have hlt : workload (r.1 ++ work) < workload (s :: work) := by
          have := workload_step h
          rw [workload_append, workload]
          omega
        rw [after, bind_of_ok h]
        exact ih _ hlt _ _ rfl st' hs

theorem keeps_evaluate (hb : ∀ f args, Keeps P (b.call f args)) (t : Tree) :
    Keeps P (t.evaluate b limit) :=
  keeps_run hb _ _

end Reckon.Evaluate
