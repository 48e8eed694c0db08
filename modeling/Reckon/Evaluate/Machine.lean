import Reckon.Action
import Reckon.Operator.Apply
import Reckon.Tree.Basic

/-!
Evaluating a tree on a stack of work. Names are resolved by `Bindings`, which may read and change a
state of any type; evaluation itself only passes the state on. The machine takes the topmost piece
of work, which either schedules the parts of a node or turns values on the value stack into one, so
a chain of operators of any length needs no depth. Depth counts the operands of prefix operators,
the right sides of `^` and the arguments of calls that lie around a node; a node deeper than the
limit is not looked at.
-/

namespace Reckon

/-- An action on a state that ends with a value or an error. -/
abbrev Run (σ : Type) := EStateM Error σ

/-- What names stand for: values of variables, and functions of their arguments. -/
structure Bindings (σ : Type) where
  lookup : String → σ → Option Value
  call : String → List Value → Run σ Value

/-- How deep the right side of an operator lies, if the operator lies at `depth`. -/
def Binary.rightDepth (op : Binary) (depth : Nat) : Nat :=
  if op = .arith .pow then depth + 1 else depth

namespace Binary

variable {op : Binary}

theorem rightDepth_of_right (h : op.rightAssociative) (depth : Nat) :
    op.rightDepth depth = depth + 1 := by
  rw [rightDepth, if_pos]
  rcases op with a | _ | _ | c | _ | _ <;> try cases a
  all_goals simp_all [rightAssociative]

theorem rightDepth_of_left (h : op.rightAssociative = false) (depth : Nat) :
    op.rightDepth depth = depth := by
  rw [rightDepth, if_neg]
  rintro rfl
  simp [rightAssociative] at h

theorem left_of_logical (h : op.logical) : op.rightAssociative = false := by
  rcases op with a | _ | _ | c | _ | _ <;> simp_all [rightAssociative, logical]

end Binary

/-- A boolean that a logical operator needs. -/
def Binary.truth (op : Binary) : Value → Except Error Bool
  | .boolean b => .ok b
  | v => .error (.type (.condition op.symbol v.kind))

namespace Evaluate

/-- A piece of work: a tree to evaluate, or what is left to do once its parts are values. -/
inductive Step
  | eval (t : Tree) (depth : Nat)
  | unary (op : Unary)
  | binary (op : Binary)
  | left (op : Binary) (r : Tree) (depth : Nat)
  | right (op : Binary)
  | call (name : String) (count : Nat)
  | tuple (count : Nat)

mutual

/-- How many steps a tree takes at most. -/
def cost : Tree → Nat
  | .literal _ | .name _ => 1
  | .unary _ t => cost t + 2
  | .binary _ l r => cost l + cost r + 3
  | .call _ ts | .tuple ts => costs ts + 2

def costs : List Tree → Nat
  | [] => 0
  | t :: ts => cost t + costs ts

end

def Step.cost : Step → Nat
  | eval t _ => Evaluate.cost t
  | left _ r _ => Evaluate.cost r + 2
  | _ => 1

theorem cost_pos : ∀ t : Tree, 0 < cost t
  | .literal _ | .name _ | .unary .. | .binary .. | .call .. | .tuple _ => by simp [cost]

theorem Step.cost_pos : ∀ s : Step, 0 < s.cost
  | eval t _ => Evaluate.cost_pos t
  | left .. => by simp [Step.cost]
  | unary _ | binary _ | right _ | call .. | tuple _ => by simp [Step.cost]

/-- How many steps are left at most. -/
def workload : List Step → Nat
  | [] => 0
  | s :: work => s.cost + workload work

theorem workload_append (more work : List Step) :
    workload (more ++ work) = workload more + workload work := by
  induction more with
  | nil => simp [workload]
  | cons s more ih => rw [List.cons_append, workload, workload, ih]; omega

/-- Trees of one depth to evaluate from left to right. -/
def evals (depth : Nat) (ts : List Tree) : List Step :=
  ts.map fun t => .eval t depth

theorem workload_evals (depth : Nat) (ts : List Tree) : workload (evals depth ts) = costs ts := by
  induction ts with
  | nil => rfl
  | cons t ts ih =>
    rw [evals, List.map_cons, workload, ← evals, ih, costs, Step.cost]

open Reckon.Action

variable {σ : Type}

def lift {α : Type} : Except Error α → Run σ α
  | .ok a => pure a
  | .error e => throw e

/-- Takes `count` values, the latest first, and gives them in the order in which they came. -/
def take (count : Nat) (values : List Value) : Option (List Value × List Value) :=
  if count ≤ values.length then some ((values.take count).reverse, values.drop count) else none

theorem take_eq_some {count : Nat} {values taken rest : List Value} :
    take count values = some (taken, rest) ↔
      count ≤ values.length ∧ (values.take count).reverse = taken ∧ values.drop count = rest := by
  rw [take]
  split
  · next h => simp [h]
  · next h => simp [h]

theorem take_eq_none {count : Nat} {values : List Value} :
    take count values = none ↔ values.length < count := by
  rw [take]
  split
  · next h => simp [h]
  · next h => simpa using h

/-- What a piece of work does: it leaves work to be done before the rest, and the
values after it. -/
def step (b : Bindings σ) (limit : Int) : Step → List Value → Run σ (List Step × List Value)
  | .eval t depth, values => do
    if limit < depth then throw (.depth limit)
    match t with
    | .literal v => return ([], v :: values)
    | .name n =>
      match b.lookup n (← get) with
      | none => throw (.lookup .variable n)
      | some v => return ([], v :: values)
    | .unary op t => return ([.eval t (depth + 1), .unary op], values)
    | .binary op l r =>
      if op.logical then return ([.eval l depth, .left op r depth], values)
      else return ([.eval l depth, .eval r (op.rightDepth depth), .binary op], values)
    | .call f ts => return (evals (depth + 1) ts ++ [.call f ts.length], values)
    | .tuple ts => return (evals depth ts ++ [.tuple ts.length], values)
  | .unary op, v :: values => return ([], (← lift (op.apply v)) :: values)
  | .binary op, r :: l :: values => return ([], (← lift (op.apply l r)) :: values)
  | .left op r depth, v :: values => do
    let c ← lift (op.truth v)
    if c = (op = .or) then return ([], .boolean c :: values)
    else return ([.eval r depth, .right op], values)
  | .right op, v :: values => return ([], .boolean (← lift (op.truth v)) :: values)
  | .call f count, values =>
    match take count values with
    | none => throw (.fault .operands)
    | some (args, values) => return ([], (← b.call f args) :: values)
  | .tuple count, values =>
    match take count values with
    | none => throw (.fault .operands)
    | some (items, values) => return ([], .tuple items :: values)
  | _, _ => throw (.fault .operands)

/-- How many values a piece of work takes from the stack. -/
def Step.pops : Step → Nat
  | eval .. => 0
  | unary _ | left .. | right _ => 1
  | binary _ => 2
  | call _ count | tuple count => count

/-- What a piece of work leaves, whatever the values are: it turns the values that it takes into
one, or schedules the parts of a node, or the right side of a logical operator once the left
side is known. -/
inductive Leaves : Step → List Value → List Step → List Value → Prop
  | value {s values} (v : Value) (h : s.pops ≤ values.length) :
    Leaves s values [] (v :: values.drop s.pops)
  | unary {op t depth values} :
    Leaves (.eval (.unary op t) depth) values [.eval t (depth + 1), .unary op] values
  | logical {op l r depth values} (h : op.logical) :
    Leaves (.eval (.binary op l r) depth) values [.eval l depth, .left op r depth] values
  | binary {op l r depth values} (h : ¬ op.logical) :
    Leaves (.eval (.binary op l r) depth) values
      [.eval l depth, .eval r (op.rightDepth depth), .binary op] values
  | call {f ts depth values} :
    Leaves (.eval (.call f ts) depth) values (evals (depth + 1) ts ++ [.call f ts.length]) values
  | tuple {ts depth values} :
    Leaves (.eval (.tuple ts) depth) values (evals depth ts ++ [.tuple ts.length]) values
  | right {op r depth v values} :
    Leaves (.left op r depth) (v :: values) [.eval r depth, .right op] values

/-- What a piece of work does: the branch of `step` that it takes, with the work, the values and the
state that it ends with. -/
inductive Does (b : Bindings σ) :
    Step → List Value → σ → List Step → List Value → σ → Prop
  | literal {v depth values st} : Does b (.eval (.literal v) depth) values st [] (v :: values) st
  | name {n depth v values st} (h : b.lookup n st = some v) :
    Does b (.eval (.name n) depth) values st [] (v :: values) st
  | unary {op t depth values st} :
    Does b (.eval (.unary op t) depth) values st [.eval t (depth + 1), .unary op] values st
  | logical {op l r depth values st} (h : op.logical) :
    Does b (.eval (.binary op l r) depth) values st [.eval l depth, .left op r depth] values st
  | binary {op l r depth values st} (h : ¬ op.logical) :
    Does b (.eval (.binary op l r) depth) values st
      [.eval l depth, .eval r (op.rightDepth depth), .binary op] values st
  | call {f ts depth values st} :
    Does b (.eval (.call f ts) depth) values st (evals (depth + 1) ts ++ [.call f ts.length])
      values st
  | tuple {ts depth values st} :
    Does b (.eval (.tuple ts) depth) values st (evals depth ts ++ [.tuple ts.length]) values st
  | applied {op v w values st} (h : Unary.apply op v = .ok w) :
    Does b (.unary op) (v :: values) st [] (w :: values) st
  | combined {op l r w values st} (h : Binary.apply op l r = .ok w) :
    Does b (.binary op) (r :: l :: values) st [] (w :: values) st
  | decided {op r depth v c values st} (h : Binary.truth op v = .ok c) (hc : c = (op = .or)) :
    Does b (.left op r depth) (v :: values) st [] (.boolean c :: values) st
  | undecided {op r depth v c values st} (h : Binary.truth op v = .ok c) (hc : ¬ c = (op = .or)) :
    Does b (.left op r depth) (v :: values) st [.eval r depth, .right op] values st
  | right {op v c values st} (h : Binary.truth op v = .ok c) :
    Does b (.right op) (v :: values) st [] (.boolean c :: values) st
  | called {f count args values rest v st st'} (ht : take count values = some (args, rest))
    (h : b.call f args st = .ok v st') : Does b (.call f count) values st [] (v :: rest) st'
  | collected {count items values rest st} (ht : take count values = some (items, rest)) :
    Does b (.tuple count) values st [] (.tuple items :: rest) st

theorem lift_eq_ok {α : Type} {r : Except Error α} {a : α} {st st' : σ} :
    lift r st = .ok a st' ↔ r = .ok a ∧ st = st' := by
  cases r with
  | error e => simp [lift, throw_apply]
  | ok b => simp [lift, pure_apply]

theorem does_step {b : Bindings σ} {limit : Int} {s : Step} {values : List Value} {st : σ}
    {more : List Step} {values' : List Value} {st' : σ}
    (h : step b limit s values st = .ok (more, values') st') :
    Does b s values st more values' st' := by
  cases s with
  | eval t depth =>
    simp only [step] at h
    split at h
    · cases h
    cases t with
    | literal v => cases h; exact .literal
    | name n =>
      obtain ⟨st₁, _, h₁, h⟩ := bind_eq_ok.1 h
      cases hn : b.lookup n st with
      | none => cases h₁; rw [hn] at h; cases h
      | some v => cases h₁; rw [hn] at h; cases h; exact .name hn
    | unary op t => cases h; exact .unary
    | binary op l r =>
      simp only at h
      split at h
      · next hop => cases h; exact .logical hop
      · next hop => cases h; exact .binary hop
    | call f ts => cases h; exact .call
    | tuple ts => cases h; exact .tuple
  | unary op =>
    cases values with
    | nil => cases h
    | cons v values =>
      obtain ⟨w, st₁, hw, h⟩ := bind_eq_ok.1 h
      obtain ⟨happly, rfl⟩ := lift_eq_ok.1 hw
      cases h; exact .applied happly
  | binary op =>
    rcases values with _ | ⟨r, _ | ⟨l, values⟩⟩
    · cases h
    · cases h
    · obtain ⟨w, st₁, hw, h⟩ := bind_eq_ok.1 h
      obtain ⟨happly, rfl⟩ := lift_eq_ok.1 hw
      cases h; exact .combined happly
  | left op r depth =>
    cases values with
    | nil => cases h
    | cons v values =>
      obtain ⟨c, st₁, hv, h⟩ := bind_eq_ok.1 h
      obtain ⟨htruth, rfl⟩ := lift_eq_ok.1 hv
      split at h
      · next hc => cases h; exact .decided htruth hc
      · next hc => cases h; exact .undecided htruth hc
  | right op =>
    cases values with
    | nil => cases h
    | cons v values =>
      obtain ⟨c, st₁, hv, h⟩ := bind_eq_ok.1 h
      obtain ⟨htruth, rfl⟩ := lift_eq_ok.1 hv
      cases h; exact .right htruth
  | call f count =>
    simp only [step] at h
    cases htake : take count values with
    | none => rw [htake] at h; cases h
    | some taken =>
      rw [htake] at h
      obtain ⟨v, st₁, hv, h⟩ := bind_eq_ok.1 h
      cases h; exact .called htake hv
  | tuple count =>
    simp only [step] at h
    cases htake : take count values with
    | none => rw [htake] at h; cases h
    | some taken => rw [htake] at h; cases h; exact .collected htake

theorem Does.leaves {b : Bindings σ} {s : Step} {values : List Value} {st : σ} {more : List Step}
    {values' : List Value} {st' : σ} (h : Does b s values st more values' st') :
    Leaves s values more values' := by
  cases h with
  | literal | name => exact .value _ (Nat.zero_le _)
  | unary => exact .unary
  | logical h => exact .logical h
  | binary h => exact .binary h
  | call => exact .call
  | tuple => exact .tuple
  | applied | combined | decided | right => exact .value _ (by simp [Step.pops])
  | undecided => exact .right
  | called ht | collected ht =>
    obtain ⟨hcount, -, rfl⟩ := take_eq_some.1 ht
    exact .value _ hcount

theorem leaves_step {b : Bindings σ} {limit : Int} {s : Step} {values : List Value} {st : σ}
    {more : List Step} {values' : List Value} {st' : σ}
    (h : step b limit s values st = .ok (more, values') st') : Leaves s values more values' :=
  (does_step h).leaves

/-- The work that a piece of work leaves takes fewer steps than the piece itself. -/
theorem workload_step {b : Bindings σ} {limit : Int} {s : Step} {values : List Value} {st : σ}
    {more : List Step} {values' : List Value} {st' : σ}
    (h : step b limit s values st = .ok (more, values') st') : workload more < s.cost := by
  cases leaves_step h with
  | value v h => rw [workload]; exact s.cost_pos
  | _ => simp only [workload_append, workload_evals, workload, Step.cost, cost]; omega

/-- Does the work; `values` holds the results so far, latest first. At the end one value is left. -/
def run (b : Bindings σ) (limit : Int) (work : List Step) (values : List Value) : Run σ Value :=
  fun st =>
    match work, values with
    | [], [v] => .ok v st
    | [], _ => .error (.fault .operands) st
    | s :: work, values =>
      match h : step b limit s values st with
      | .ok (more, values) st =>
        have := workload_step h
        run b limit (more ++ work) values st
      | .error e st => .error e st
termination_by workload work
decreasing_by
  rw [workload_append, workload]
  omega

end Evaluate

/-- The value of a tree, by the machine. -/
def Tree.evaluate {σ : Type} (b : Bindings σ) (limit : Int) (t : Tree) : Run σ Value :=
  Evaluate.run b limit [.eval t 0] []

end Reckon
