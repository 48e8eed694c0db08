import Reckon.Proofs.Evaluate.Alike
import Reckon.Proofs.Evaluate.Rounds

/-!
The machine computes the meaning of a tree. With a node on top of its work it does as much as the
recursion over the node does and then goes on with the value, whatever work and values wait below;
so on a single tree the two are the same action, also when the bindings keep a record of every call.
-/

namespace Reckon

namespace Evaluate

open Reckon.Action

variable {σ : Type} (b : Bindings σ) (limit : Int)

lemma length_values {ts : List Tree} {depth : Nat} {st st' : σ} {vs : List Value}
    (h : Tree.values b limit ts depth st = .ok vs st') : vs.length = ts.length := by
  induction ts generalizing st st' vs with
  | nil => cases h; rfl
  | cons t ts ih =>
    rw [Tree.values, bind_eq_ok] at h
    obtain ⟨v, st₁, -, h⟩ := h
    obtain ⟨ws, st₂, hws, h⟩ := bind_eq_ok.1 h
    cases h
    simp [ih hws]

/-- The values of the parts of a node come back in the order of the parts. -/
lemma take_reverse {vs values : List Value} {count : Nat} (h : vs.length = count) :
    take count (vs.reverse ++ values) = some (vs, values) := by
  rw [take_eq_some]
  subst h
  simp

mutual

lemma run_eval (t : Tree) (depth : Nat) (work : List Step) (values : List Value) :
    run b limit (.eval t depth :: work) values =
      t.value b limit depth >>= fun v => run b limit work (v :: values) := by
  rw [run_cons]
  by_cases hd : limit < depth
  · cases t <;> simp [step, Tree.value, hd, throw_bind]
  cases t with
  | literal v => simp [step, Tree.value, hd]
  | name n =>
    simp only [step, Tree.value, hd, if_false, bind_assoc]
    congr 1; funext st
    cases b.lookup n st <;> simp [throw_bind]
  | unary op t =>
    simp only [step, Tree.value, hd, if_false, bind_assoc]
    rw [pure_bind, List.cons_append, run_eval t (depth + 1)]
    congr 1; funext v
    simp [run_cons, step]
  | binary op l r =>
    simp only [step, Tree.value, hd, if_false, bind_assoc]
    split
    · next hop =>
      rw [pure_bind, List.cons_append, run_eval l depth]
      congr 1; funext v
      simp only [List.cons_append, List.nil_append, run_cons, step, bind_assoc]
      congr 1; funext c
      split
      · simp
      · rw [pure_bind, List.cons_append, run_eval r depth, bind_assoc]
        congr 1; funext v
        simp [run_cons, step]
    · next hop =>
      rw [pure_bind, List.cons_append, run_eval l depth]
      congr 1; funext v
      rw [List.cons_append, run_eval r (op.rightDepth depth), bind_assoc]
      congr 1; funext w
      simp [run_cons, step]
  | call f ts =>
    simp only [step, Tree.value, hd, if_false, bind_assoc]
    rw [pure_bind, List.append_assoc, run_evals ts (depth + 1)]
    funext st
    refine bind_congr fun vs st' h => ?_
    rw [List.cons_append, run_cons, step, take_reverse (length_values b limit h)]
    simp
  | tuple ts =>
    simp only [step, Tree.value, hd, if_false, bind_assoc]
    rw [pure_bind, List.append_assoc, run_evals ts depth]
    funext st
    refine bind_congr fun vs st' h => ?_
    rw [List.cons_append, run_cons, step, take_reverse (length_values b limit h)]
    simp

lemma run_evals (ts : List Tree) (depth : Nat) (work : List Step) (values : List Value) :
    run b limit (evals depth ts ++ work) values =
      Tree.values b limit ts depth >>= fun vs => run b limit work (vs.reverse ++ values) := by
  cases ts with
  | nil => simp [evals, Tree.values]
  | cons t ts =>
    rw [evals, List.map_cons, ← evals, List.cons_append, run_eval t depth, Tree.values, bind_assoc]
    congr 1; funext v
    rw [run_evals ts depth, bind_assoc]
    congr 1; funext vs
    simp

end

lemma run_eval_nil (t : Tree) : run b limit [.eval t 0] [] = t.value b limit 0 := by
  rw [run_eval]
  simp only [run_nil, bind_pure]

lemma relates_evaluate {τ : Type} {R : σ → τ → Prop} {b : Bindings σ} {b' : Bindings τ}
    (h : b.Relates R b') (limit : Int) (t : Tree) :
    Relates R Eq Eq (t.evaluate b limit) (t.evaluate b' limit) := by
  rw [Tree.evaluate, Tree.evaluate, run_eval_nil, run_eval_nil]
  exact relates_value h limit t 0

lemma evaluate_instantiate {τ : Type} {R : σ → τ → Prop} {b : Bindings σ} {b' : Bindings τ}
    {ρ : String → Option Value} {t : Tree} (h : b.Agree R ρ b' t) (limit : Int) :
    Relates R Eq Eq (t.evaluate b limit) ((t.instantiate ρ).evaluate b' limit) := by
  rw [Tree.evaluate, Tree.evaluate, run_eval_nil, run_eval_nil]
  exact relates_instantiate limit t h 0

end Evaluate

/-! ### The record of calls -/

variable {σ : Type}

/-- The bindings that also keep a record of the calls, the latest last. -/
def Bindings.recorded (b : Bindings σ) : Bindings (σ × List (String × List Value)) where
  lookup n st := b.lookup n st.1
  call f args st :=
    match b.call f args st.1 with
    | .ok v st' => .ok v (st', st.2 ++ [(f, args)])
    | .error e st' => .error e (st', st.2 ++ [(f, args)])

namespace Evaluate

open Reckon.Action

/-- The result without the record. -/
def forget {α ρ : Type} : EStateM.Result Error (σ × ρ) α → EStateM.Result Error σ α
  | .ok a st => .ok a st.1
  | .error e st => .error e st.1

/-- The first action is the second one with a record. -/
def Recorded {α ρ : Type} (x : Run (σ × ρ) α) (y : Run σ α) : Prop :=
  ∀ st, forget (x st) = y st.1

lemma recorded_of_relates {α ρ : Type} {x : Run (σ × ρ) α} {y : Run σ α}
    (h : Relates (fun st st' => st.1 = st') Eq Eq x y) : Recorded x y := by
  intro st
  have h := h st st.1 rfl
  generalize x st = r at h
  generalize y st.1 = r' at h
  cases h with
  | ok h hs => rw [forget, h, hs]
  | error h hs => rw [forget, h, hs]

variable (b : Bindings σ) (limit : Int)

lemma relates_recorded : b.recorded.Relates (fun st st' => st.1 = st') b where
  lookup := by
    rintro n st _ rfl
    rfl
  call f args := by
    rintro st _ rfl
    simp only [Bindings.recorded]
    cases b.call f args st.1 with
    | ok v st' => exact .ok rfl rfl
    | error e st' => exact .error rfl rfl

/-- Keeping a record changes nothing else. -/
lemma recorded_value (t : Tree) (depth : Nat) :
    Recorded (t.value b.recorded limit depth) (t.value b limit depth) :=
  recorded_of_relates (relates_value (relates_recorded b) limit t depth)

end Evaluate

open Evaluate

/-- **The machine and the recursion agree**: they are the same action on the state of any
bindings, with the same value or first error, and they make the same calls with the same arguments
in the same order, as bindings that record their calls and are otherwise as before show. The
machine needs at most `cost t` rounds, never misses an operand, and ends with one value or the
error of a piece of work. -/
theorem Tree.evaluate_eq_value (b : Bindings σ) (limit : Int) (t : Tree) :
    t.evaluate b limit = t.value b limit 0 ∧
      t.evaluate b.recorded limit = t.value b.recorded limit 0 ∧
      Recorded (t.evaluate b.recorded limit) (t.evaluate b limit) ∧
      ∀ st,
        (∃ n m, Rounds b limit n (.start t st) m ∧ Ends b limit m (t.evaluate b limit st)) ∧
        ∀ n m, Rounds b limit n (.start t st) m → n ≤ cost t ∧ m.Supplied := by
  refine ⟨run_eval_nil b limit t, run_eval_nil b.recorded limit t, ?_, fun st => ⟨?_, ?_⟩⟩
  · rw [Tree.evaluate, Tree.evaluate, run_eval_nil, run_eval_nil]
    exact recorded_value b limit t 0
  · exact exists_ends (by simp [Settles, Step.pops])
  · intro n m h
    refine ⟨?_, h.supplied⟩
    have := h.workload_le
    simp only [Machine.start, workload, Step.cost] at this
    omega

end Reckon
