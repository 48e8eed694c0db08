import Reckon.Evaluate.Machine
import Reckon.Limits.Environment
import Reckon.Limits.Recent
import Reckon.Session.Store
import Reckon.Tree.Source

/-!
A session evaluates sources against a store of bindings. It reads its limits from the environment
each time they are needed and remembers the limits of the last environments, so that what is wrong
with a setting is reported when the environment is new, and it keeps a journal of what it reports
and a record of the host functions that it starts. A host function may have further sources
evaluated; how often such evaluations may stand inside each other is bounded by an allowance.
-/

namespace Reckon

structure Session where
  environment : Environment
  limits : Recent Environment Limits
  journal : Array Notice
  calls : Array (String × List Value)
  store : Store

def Session.initial : Session :=
  ⟨.initial, .empty, #[], #[], .empty⟩

/-- An action in a session. -/
abbrev Act := Run Session

namespace Act

open Evaluate (lift)

def note (n : Notice) : Act Unit :=
  modify fun s => { s with journal := s.journal.push n }

/-! ### Limits -/

/-- How many environments a session remembers. -/
def memory : Nat := 32

/-- The limits in effect. -/
def limits : Act Limits := do
  let s ← get
  let (l, notices) := match s.limits.find? s.environment with
    | some l => (l, [])
    | none => Limits.ofEnvironment s.environment
  set { s with limits := s.limits.use memory s.environment l }
  notices.forM note
  return l

/-- The limit of nesting: the one that is asked for, capped, or the one in effect. -/
def nesting : Option Int → Act Int
  | some n => do
    let (n, notices) := Limits.cap (← get).environment.stack n
    notices.forM note
    return n
  | none => return (← limits).nesting

def depth : Option Int → Act Int
  | some n => return n
  | none => return (← limits).depth

/-! ### Sources -/

def build (source : Option String) (limit : Option Int) (ts : List Token) : Act Tree := do
  lift (Tree.build source (← nesting limit) ts)

def readTree (limit : Option Int) (source : String) : Act Tree := do
  let ts ← lift (Token.scan source)
  let t ← build (some source) limit ts
  note (.built source t)
  return t

def readAssignment (limit : Option Int) (source : String) : Act (String × Tree) := do
  let ts ← lift (Token.scan source)
  let (n, ts) ← lift (Tree.assigned source ts)
  return (n, ← build (some source) limit ts)

/-! ### Bindings -/

def bindVariable (name : String) (data : Native) : Act Unit := do
  let v ← lift data.toValue
  modify fun s => { s with store.values := s.store.values.insert name v }
  note (.boundVariable name v)

/-- Gives the value that the variable had. -/
def unbindVariable (name : String) : Act (Option Value) := do
  let s ← get
  set { s with store.values := s.store.values.erase name }
  return s.store.values.get? name

def bindFunction (name : String) (f : Function) : Act Unit := do
  modify fun s => { s with store.functions := s.store.functions.insert name f }
  note (.boundFunction name f.count)

/-- Gives the function that the name had. -/
def unbindFunction (name : String) : Act (Option Function) := do
  let s ← get
  set { s with store.functions := s.store.functions.erase name }
  return s.store.functions.get? name

/-! ### Evaluation -/

/-- The outcome of an action, as a result that cannot fail. -/
def outcome {α : Type} (a : Act α) : Act (Except Error α) := fun s =>
  match a s with
  | .ok x s => .ok (.ok x) s
  | .error e s => .ok (.error e) s

/-- Does what a host function asks for; `evaluate` evaluates a source. -/
def perform (evaluate : String → Act Value) : Proc → Act Native
  | .give data => return data
  | .fail e => throw e
  | .lookup n next => do perform evaluate (next ((← get).store.values.get? n))
  | .bind n data next => do
    bindVariable n data
    perform evaluate next
  | .unbind n next => do perform evaluate (next (← unbindVariable n))
  | .bindFunction n own body count next => do
    bindFunction n ⟨own, body, count⟩
    perform evaluate next
  | .unbindFunction n next => do perform evaluate (next (← unbindFunction n).isSome)
  | .evaluate source next => do perform evaluate (next (← outcome (evaluate source)))

/-- Calls a function: first the number of arguments is checked, then the body runs, and then its
result becomes a value. -/
def call (evaluate : String → Act Value) (name : String) (args : List Value) : Act Value := do
  match (← get).store.functions.get? name with
  | none => throw (.lookup .function name)
  | some f =>
    if let some n := f.count then
      if n ≠ args.length then throw (.arity name n args.length)
    modify fun s => { s with calls := s.calls.push (name, args) }
    lift (← perform evaluate (f.body args)).toValue

/-- A call fails at its name or its number of arguments, or it is recorded and the body runs. -/
theorem call_cases (evaluate : String → Act Value) (name : String) (args : List Value)
    (s : Session) :
    (s.store.functions.get? name = none ∧
      call evaluate name args s = .error (.lookup .function name) s) ∨
    (∃ f n, s.store.functions.get? name = some f ∧ f.count = some n ∧ n ≠ args.length ∧
      call evaluate name args s = .error (.arity name n args.length) s) ∨
    ∃ f, s.store.functions.get? name = some f ∧ (∀ n, f.count = some n → n = args.length) ∧
      call evaluate name args s = (do lift (← perform evaluate (f.body args)).toValue : Act Value)
        { s with calls := s.calls.push (name, args) } := by
  cases hf : s.store.functions.get? name with
  | none =>
    refine .inl ⟨rfl, ?_⟩
    rw [call, Action.get_bind, hf]
    rfl
  | some f =>
    rcases f with ⟨own, body, _ | n⟩
    · refine .inr (.inr ⟨_, rfl, nofun, ?_⟩)
      rw [call, Action.get_bind, hf]
      rfl
    by_cases hn : n = args.length
    · refine .inr (.inr ⟨_, rfl, fun m hm => by cases hm; exact hn, ?_⟩)
      rw [call, Action.get_bind, hf]
      simp only [if_neg (fun h : n ≠ args.length => h hn)]
      rfl
    · refine .inr (.inl ⟨_, n, rfl, rfl, hn, ?_⟩)
      rw [call, Action.get_bind, hf]
      simp only [if_pos hn]
      rfl

/-- The bindings of the session, where sources are evaluated by `evaluate`. -/
def bindings (evaluate : String → Act Value) : Bindings Session where
  lookup n s := s.store.values.get? n
  call := call evaluate

/-- Evaluates a tree with given bindings. -/
def evaluateWith (b : Bindings Session) (limit : Option Int) (t : Tree) : Act Value := do
  t.evaluate b (← depth limit)

/-- Evaluates a source whose host functions may evaluate sources in turn, up to `allowance` times
inside each other. -/
def source : (allowance : Nat) → String → Act Value
  | 0, _ => throw (.fault .reentry)
  | allowance + 1, text => do
    let t ← readTree none text
    let v ← evaluateWith (bindings (source allowance)) none t
    note (.evaluated text v)
    return v

/-- How many evaluations may stand inside each other. -/
def allowance : Nat := 1000

/-- The bindings of the session. -/
def names : Bindings Session :=
  bindings (source allowance)

def evaluateText (text : String) : Act Value :=
  source (allowance + 1) text

def evaluate (limit : Option Int) (t : Tree) : Act Value :=
  evaluateWith names limit t

/-- Binds the value of an assignment `name = expression` to its name, once it is evaluated. -/
def assign (statement : String) : Act Value := do
  let (n, t) ← readAssignment none statement
  let v ← evaluate none t
  bindVariable n (.value v)
  return v

end Act

end Reckon
