import Mathlib.Tactic.Lemma
import Reckon.Evaluate.Machine

/-!
The machine round by round. A round does the topmost piece of work, and what a piece of work leaves
is known from its shape alone (`Leaves`), so whatever every `Leaves` keeps holds at every moment of
a run. Two such invariants are here: each round takes from the bound on the rounds, and the values
on the stack always suffice for the work, which in the end leaves exactly one of them.
-/

namespace Reckon.Evaluate

open Reckon.Action

variable {σ : Type} {b : Bindings σ} {limit : Int}

/-- The machine between two rounds. -/
structure Machine (σ : Type) where
  work : List Step
  values : List Value
  state : σ

namespace Machine

/-- The machine that is to evaluate a tree. -/
def start (t : Tree) (st : σ) : Machine σ := ⟨[.eval t 0], [], st⟩

/-- The next piece of work finds the values that it takes; without work there is one value. -/
def Supplied (m : Machine σ) : Prop :=
  match m.work with
  | [] => m.values.length = 1
  | s :: _ => s.pops ≤ m.values.length

end Machine

/-- From one machine to another in `n` rounds. -/
inductive Rounds (b : Bindings σ) (limit : Int) : Nat → Machine σ → Machine σ → Prop
  | none (m : Machine σ) : Rounds b limit 0 m m
  | next {n : Nat} {s : Step} {work more : List Step} {values values' : List Value} {st st' : σ}
    {m : Machine σ} (h : step b limit s values st = .ok (more, values') st')
    (hm : Rounds b limit n ⟨more ++ work, values', st'⟩ m) :
    Rounds b limit (n + 1) ⟨s :: work, values, st⟩ m

/-- How a run ends: with its one value, or with the error of the next piece of work. -/
inductive Ends (b : Bindings σ) (limit : Int) : Machine σ → EStateM.Result Error σ Value → Prop
  | value (v : Value) (st : σ) : Ends b limit ⟨[], [v], st⟩ (.ok v st)
  | error {s : Step} {work : List Step} {values : List Value} {st st' : σ} {e : Error}
    (h : step b limit s values st = .error e st') :
    Ends b limit ⟨s :: work, values, st⟩ (.error e st')

lemma run_nil (v : Value) : run b limit [] [v] = pure v := by
  funext st
  rw [run]; rfl

lemma run_cons (s : Step) (work : List Step) (values : List Value) :
    run b limit (s :: work) values =
      step b limit s values >>= fun r => run b limit (r.1 ++ work) r.2 := by
  funext st
  unfold run
  split
  · next h => rw [bind_of_ok h]
  · next h => rw [bind_of_error h]

/-- What every piece of work keeps, every run keeps. -/
lemma Rounds.keeps {P : List Step → List Value → Prop}
    (hP : ∀ {s work values more values'}, Leaves s values more values' → P (s :: work) values →
      P (more ++ work) values')
    {n : Nat} {m m' : Machine σ} (h : Rounds b limit n m m') (hm : P m.work m.values) :
    P m'.work m'.values := by
  induction h with
  | none m => exact hm
  | next h _ ih => exact ih (hP (leaves_step h) hm)

lemma Rounds.workload_le {n : Nat} {m m' : Machine σ} (h : Rounds b limit n m m') :
    n + workload m'.work ≤ workload m.work := by
  induction h with
  | none m => omega
  | next h _ ih =>
    have := workload_step h
    rw [workload_append] at ih
    rw [workload]
    omega

/-! ### The stack of values -/

/-- The work can be done on so many values and leaves one: each piece of work turns the values that
it takes into one. -/
def Settles : List Step → Nat → Prop
  | [], n => n = 1
  | s :: work, n => s.pops ≤ n ∧ Settles work (n - s.pops + 1)

lemma settles_evals {depth : Nat} {ts : List Tree} {work : List Step} {n : Nat} :
    Settles (evals depth ts ++ work) n ↔ Settles work (n + ts.length) := by
  induction ts generalizing n with
  | nil => simp [evals]
  | cons t ts ih =>
    rw [evals, List.map_cons, ← evals, List.cons_append, Settles, ih, List.length_cons, Step.pops,
      Nat.sub_zero, Nat.add_right_comm, Nat.add_assoc]
    simp

lemma Settles.leaves {s : Step} {work more : List Step} {values values' : List Value}
    (h : Leaves s values more values') (hs : Settles (s :: work) values.length) :
    Settles (more ++ work) values'.length := by
  obtain ⟨-, hs⟩ := hs
  cases h with
  | value v h => simpa using hs
  | unary => simpa [Settles, Step.pops] using hs
  | logical h => simpa [Settles, Step.pops] using hs
  | binary h => simpa [Settles, Step.pops] using hs
  | call => simpa [settles_evals, Settles, Step.pops] using hs
  | tuple => simpa [settles_evals, Settles, Step.pops] using hs
  | right => simpa [Settles, Step.pops] using hs

lemma Settles.supplied {m : Machine σ} (h : Settles m.work m.values.length) : m.Supplied := by
  obtain ⟨work, values, st⟩ := m
  cases work with
  | nil => exact h
  | cons s work => exact h.1

/-- At every moment of an evaluation the machine has the values that it needs. -/
theorem Rounds.supplied {n : Nat} {t : Tree} {st : σ} {m : Machine σ}
    (h : Rounds b limit n (.start t st) m) : m.Supplied := by
  refine Settles.supplied (h.keeps (P := fun work values => Settles work values.length) ?_ ?_)
  · exact fun hl => Settles.leaves hl
  · simp [Machine.start, Settles, Step.pops]

/-- Every run comes to an end, if there are always enough values. -/
theorem exists_ends {work : List Step} {values : List Value} {st : σ}
    (h : Settles work values.length) :
    ∃ n m, Rounds b limit n ⟨work, values, st⟩ m ∧ Ends b limit m (run b limit work values st) := by
  induction hw : workload work using Nat.strongRecOn generalizing work values st with
  | ind w ih =>
    subst hw
    cases work with
    | nil =>
      obtain ⟨v, rfl⟩ := List.length_eq_one_iff.1 h
      exact ⟨0, _, .none _, by rw [run_nil]; exact .value v st⟩
    | cons s work =>
      rw [run_cons]
      cases hs : step b limit s values st with
      | error e st' => exact ⟨0, _, .none _, by rw [bind_of_error hs]; exact .error hs⟩
      | ok r st' =>
        obtain ⟨more, values'⟩ := r
        have hlt : workload (more ++ work) < workload (s :: work) := by
          have := workload_step hs
          rw [workload_append, workload]
          omega
        obtain ⟨n, m, hm, he⟩ := ih _ hlt (h.leaves (leaves_step hs)) rfl
        exact ⟨n + 1, m, .next hs hm, by rw [bind_of_ok hs]; exact he⟩

end Reckon.Evaluate
