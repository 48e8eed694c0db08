import Mathlib.Logic.Function.Basic
import Reckon.Proofs.Session.Alike
import Reckon.Proofs.Session.Depth

/-!
A session as two maps. With host functions that only read, whatever is asked of a session changes
what its names are bound to as a reference with two independent maps says: an operation that fails
leaves both maps, one that binds or unbinds a name changes that name in one map, an assignment binds
what its right side means under the maps before it, and nothing else changes anything. Whatever host
functions do, an assignment adds its binding to what the evaluation of its right side leaves, if
that has a value.
-/

namespace Reckon

open Reckon.Action Evaluate

/-! ### Maps -/

/-- What variables and functions are bound to, in two maps that know nothing of each other. -/
structure Maps where
  values : String → Option Value
  functions : String → Option Function

namespace Maps

def bind (m : Maps) (n : String) (v : Option Value) : Maps :=
  { m with values := Function.update m.values n v }

def bindFunction (m : Maps) (n : String) (f : Option Function) : Maps :=
  { m with functions := Function.update m.functions n f }

lemma functions_bindFunction (m : Maps) (n n' : String) (f : Option Function) :
    (m.bindFunction n f).functions n' = if n' = n then f else m.functions n' :=
  Function.update_apply _ _ _ _

end Maps

section

variable {α : Type} (names : Names α) (n : String)

lemma Names.get?_insert_eq (a : α) :
    (names.insert n a).get? = Function.update names.get? n (some a) := by
  funext m
  rw [get?_insert, Function.update_apply]

lemma Names.get?_erase_eq : (names.erase n).get? = Function.update names.get? n none := by
  funext m
  rw [get?_erase, Function.update_apply]

end

namespace Store

def maps (b : Store) : Maps :=
  ⟨b.values.get?, b.functions.get?⟩

lemma maps_insert (b : Store) (n : String) (v : Value) :
    maps { b with values := b.values.insert n v } = b.maps.bind n (some v) := by
  rw [maps, Names.get?_insert_eq]
  rfl

lemma maps_erase (b : Store) (n : String) :
    maps { b with values := b.values.erase n } = b.maps.bind n none := by
  rw [maps, Names.get?_erase_eq]
  rfl

lemma maps_insertFunction (b : Store) (n : String) (f : Reckon.Function) :
    maps { b with functions := b.functions.insert n f } = b.maps.bindFunction n (some f) := by
  rw [maps, Names.get?_insert_eq]
  rfl

lemma maps_eraseFunction (b : Store) (n : String) :
    maps { b with functions := b.functions.erase n } = b.maps.bindFunction n none := by
  rw [maps, Names.get?_erase_eq]
  rfl

/-- A store is known from its maps. -/
lemma eq_of_maps {b b' : Store} (h : b.maps = b'.maps) : b = b' := by
  obtain ⟨values, functions⟩ := b
  obtain ⟨values', functions'⟩ := b'
  injection h with hv hf
  obtain rfl : values = values' := Names.ext (congrFun hv)
  obtain rfl : functions = functions' := Names.ext (congrFun hf)
  rfl

end Store

/-! ### Host functions that only read -/

/-- The host function binds and unbinds no name. -/
def Proc.ReadOnly : Proc → Prop
  | give _ | fail _ => True
  | lookup _ next => ∀ r, (next r).ReadOnly
  | evaluate _ next => ∀ r, (next r).ReadOnly
  | bind .. | unbind .. | bindFunction .. | unbindFunction .. => False

def Function.ReadOnly (f : Function) : Prop :=
  ∀ args, (f.body args).ReadOnly

def Maps.ReadOnly (m : Maps) : Prop :=
  ∀ n f, m.functions n = some f → f.ReadOnly

/-- No other host functions are bound. -/
def Operation.ReadOnly : Operation → Prop
  | bindFunction _ f => f.ReadOnly
  | _ => True

namespace Act

variable {b : Store} {evaluate : String → Act Value}

lemma stored_perform (h : ∀ text, Keeps (·.store = b) (evaluate text)) {p : Proc}
    (hp : p.ReadOnly) : Keeps (·.store = b) (perform evaluate p) := by
  induction p with
  | give data => exact .pure _
  | fail r => exact .throw _
  | lookup n next ih => exact .get fun s hs => ih _ (hp _) s hs
  | evaluate text next ih => exact (keeps_outcome (h text)).bind fun r => ih r (hp r)
  | bind | unbind | bindFunction | unbindFunction => exact hp.elim

lemma stored_call (hb : b.maps.ReadOnly) (h : ∀ text, Keeps (·.store = b) (evaluate text))
    (name : String) (args : List Value) : Keeps (·.store = b) (call evaluate name args) := by
  rintro s rfl
  rcases call_cases evaluate name args s with ⟨-, h'⟩ | ⟨_, n, -, -, -, h'⟩ | ⟨f, hf, -, h'⟩ <;>
    rw [after, h']
  exact ((stored_perform h (hb name f hf args)).bind fun _ => keeps_lift _) _ rfl

lemma stored_evaluateWith (hb : b.maps.ReadOnly) (h : ∀ text, Keeps (·.store = b) (evaluate text))
    (limit : Option Int) (t : Tree) :
    Keeps (·.store = b) (evaluateWith (bindings evaluate) limit t) :=
  ((steady_store (· = b)).depth limit).bind fun _ => keeps_evaluate (stored_call hb h) t

lemma stored_source (hb : b.maps.ReadOnly) (allowance : Nat) (text : String) :
    Keeps (·.store = b) (source allowance text) := by
  induction allowance generalizing text with
  | zero => exact .throw _
  | succ allowance ih =>
    exact ((steady_store (· = b)).readTree none text).bind fun t =>
      (stored_evaluateWith hb ih none t).bind fun _ =>
      (stored_note (· = b) _).bind fun _ => .pure _

/-- Evaluation with functions that only read changes no binding. -/
lemma stored_evaluate (hb : b.maps.ReadOnly) (limit : Option Int) (t : Tree) :
    Keeps (·.store = b) (Act.evaluate limit t) :=
  stored_evaluateWith hb (stored_source hb allowance) limit t

end Act

/-! ### The reference -/

/-- Under these bindings the tree is evaluated to this, in every session of the environment. -/
def Maps.Means (e : Environment) (m : Maps) (t : Tree) (r : Except Error Value) : Prop :=
  ∀ s : Session, s.Settled e → s.store.maps = m → result (Act.evaluate none t) s = r

/-- The operation is not meant to change what is bound. -/
def Operation.Looks : Operation → Prop
  | bindVariable .. | unbindVariable _ | bindFunction .. | unbindFunction _ | assign _ => False
  | limits | build .. | readTree .. | readAssignment .. | call .. | evaluate .. | evaluateText _ =>
    True

/-- What becomes of the maps in an operation that ends as it does. -/
inductive Maps.Step (e : Environment) : Maps → Operation → Except Error Unit → Maps → Prop
  | look {m o r} (h : o.Looks) : Step e m o r m
  | bind {m n data v} (h : data.toValue = .ok v) :
    Step e m (.bindVariable n data) (.ok ()) (m.bind n (some v))
  | bind_refused {m n data r} (h : data.toValue = .error r) :
      Step e m (.bindVariable n data) (.error r) m
  | unbind {m n} : Step e m (.unbindVariable n) (.ok ()) (m.bind n none)
  | bindFunction {m n f} : Step e m (.bindFunction n f) (.ok ()) (m.bindFunction n (some f))
  | unbindFunction {m n} : Step e m (.unbindFunction n) (.ok ()) (m.bindFunction n none)
  | assign {m statement n t v}
    (ht : Tree.ofAssignment (Limits.ofEnvironment e).1.nesting statement = .ok (n, t))
    (hv : m.Means e t (.ok v)) : Step e m (.assign statement) (.ok ()) (m.bind n (some v))
  | assign_unread {m statement r}
    (ht : Tree.ofAssignment (Limits.ofEnvironment e).1.nesting statement = .error r) :
    Step e m (.assign statement) (.error r) m
  | assign_failed {m statement n t r}
    (ht : Tree.ofAssignment (Limits.ofEnvironment e).1.nesting statement = .ok (n, t))
    (hv : m.Means e t (.error r)) : Step e m (.assign statement) (.error r) m

/-- Operations one after another, each with how it ends. -/
inductive Maps.Run (e : Environment) : Maps → List (Operation × Except Error Unit) → Maps → Prop
  | none {m} : Run e m [] m
  | next {m m₁ m' o r os} (h : Step e m o r m₁) (hs : Run e m₁ os m') : Run e m ((o, r) :: os) m'

/-- Does the operations one after another, and notes how they end. -/
def Session.run : List Operation → Session → List (Operation × Except Error Unit) × Session
  | [], s => ([], s)
  | o :: os, s =>
    let r := Session.run os (after o.act s)
    ((o, result o.act s) :: r.1, r.2)

namespace Maps

variable {e : Environment} {m m' m₁ m₂ : Maps} {o : Operation}

/-- What fails leaves the maps as they are. -/
lemma Step.of_error {r : Error} (h : Step e m o (.error r) m') : m' = m := by
  cases h <;> rfl

lemma Step.readOnly {r : Except Error Unit} (h : Step e m o r m') (ho : o.ReadOnly)
    (hm : m.ReadOnly) : m'.ReadOnly := by
  cases h with
  | bindFunction =>
    intro n' f' hf
    rw [functions_bindFunction] at hf
    split at hf
    · cases hf; exact ho
    · exact hm n' f' hf
  | unbindFunction =>
    intro n' f' hf
    rw [functions_bindFunction] at hf
    split at hf
    · cases hf
    · exact hm n' f' hf
  | _ => exact hm

/-- The reference leaves no choice, where there is a session with its bindings. -/
lemma Step.unique {s : Session} (hs : s.Settled e) {r₁ r₂ : Except Error Unit} (ho : ¬ o.Looks)
    (h₁ : Step e s.store.maps o r₁ m₁) (h₂ : Step e s.store.maps o r₂ m₂) : r₁ = r₂ ∧ m₁ = m₂ := by
  have hm : ∀ {t v w}, s.store.maps.Means e t v → s.store.maps.Means e t w → v = w := fun hv hw =>
    (hv s hs rfl).symm.trans (hw s hs rfl)
  cases h₁ with
  | look h => exact absurd h ho
  | bind h => cases h₂ with
    | look h => exact absurd h ho
    | bind h' => rw [h] at h'; cases h'; exact ⟨rfl, rfl⟩
    | bind_refused h' => rw [h] at h'; cases h'
  | bind_refused h => cases h₂ with
    | look h => exact absurd h ho
    | bind h' => rw [h] at h'; cases h'
    | bind_refused h' => rw [h] at h'; cases h'; exact ⟨rfl, rfl⟩
  | unbind | bindFunction | unbindFunction => cases h₂ with
    | look h => exact absurd h ho
    | _ => exact ⟨rfl, rfl⟩
  | assign h hv => cases h₂ with
    | look h => exact absurd h ho
    | assign h' hw => rw [h] at h'; cases h'; cases hm hv hw; exact ⟨rfl, rfl⟩
    | assign_unread h' => rw [h] at h'; cases h'
    | assign_failed h' hw => rw [h] at h'; cases h'; cases hm hv hw
  | assign_unread h => cases h₂ with
    | look h => exact absurd h ho
    | assign h' | assign_failed h' => rw [h] at h'; cases h'
    | assign_unread h' => rw [h] at h'; cases h'; exact ⟨rfl, rfl⟩
  | assign_failed h hv => cases h₂ with
    | look h => exact absurd h ho
    | assign h' hw => rw [h] at h'; cases h'; cases hm hv hw
    | assign_unread h' => rw [h] at h'; cases h'
    | assign_failed h' hw => rw [h] at h'; cases h'; cases hm hv hw; exact ⟨rfl, rfl⟩

end Maps

/-! ### Assignments -/

/-- An assignment in a session and what it leaves bound: what was bound, if it is not read; else
what the evaluation of its right side leaves, with its own binding if that has a value. -/
inductive Assigned (e : Environment) (s : Session) (statement : String) :
    Except Error Value → Maps → Prop
  | unread {r} (ht : Tree.ofAssignment (Limits.ofEnvironment e).1.nesting statement = .error r) :
    Assigned e s statement (.error r) s.store.maps
  | failed {n t r} (ht : Tree.ofAssignment (Limits.ofEnvironment e).1.nesting statement =
      .ok (n, t))
    (hv : result (Act.evaluate none t) s = .error r) :
    Assigned e s statement (.error r) (after (Act.evaluate none t) s).store.maps
  | bound {n t v} (ht : Tree.ofAssignment (Limits.ofEnvironment e).1.nesting statement = .ok (n, t))
    (hv : result (Act.evaluate none t) s = .ok v) :
    Assigned e s statement (.ok v) ((after (Act.evaluate none t) s).store.maps.bind n (some v))

lemma nesting_of_settled {e : Environment} {s : Session} (h : s.Settled e) :
    ∃ s', Act.nesting none s = .ok (Limits.ofEnvironment e).1.nesting s' := by
  obtain ⟨s', h, -⟩ := Act.limits_ok h
  exact ⟨s', bind_of_ok h⟩

lemma assigned_assign {e : Environment} {s : Session} (h : s.Settled e) (statement : String) :
    Assigned e s statement (result (Act.assign statement) s)
      (after (Act.assign statement) s).store.maps := by
  obtain ⟨s₀, hn⟩ := nesting_of_settled h
  have hread := Act.result_readAssignment hn statement
  have hsettled := Act.steady_settled.readAssignment none statement s h
  have hstore := (Act.steady_store (· = s.store)).readAssignment none statement s rfl
  cases hr : Act.readAssignment none statement s with
  | error r s₁ =>
    rw [result_of_error hr] at hread
    rw [after_of_error hr] at hstore
    have ha : Act.assign statement s = .error r s₁ := bind_of_error hr
    rw [result_of_error ha, after_of_error ha, hstore]
    exact .unread hread.symm
  | ok a s₁ =>
    obtain ⟨n, t⟩ := a
    rw [result_of_ok hr] at hread
    rw [after_of_ok hr] at hsettled hstore
    -- the session in which the right side is evaluated differs from the first one in
    -- its limits only
    have hagree : Relates (Session.Same e) Eq Eq (Act.evaluate none t) (Act.evaluate none t) :=
      Act.agrees_evaluate none t
    have hsame : s₁.Same e s := ⟨hsettled, h, hstore⟩
    have hresult := hagree.result_eq hsame
    have hleft := (hagree.after_related hsame).store
    cases hv : Act.evaluate none t s₁ with
    | error r s₂ =>
      have ha : Act.assign statement s = .error r s₂ := (bind_of_ok hr).trans (bind_of_error hv)
      rw [result_of_error hv] at hresult
      rw [after_of_error hv] at hleft
      rw [result_of_error ha, after_of_error ha, hleft]
      exact .failed hread.symm hresult.symm
    | ok v s₂ =>
      have ha : Act.assign statement s = .ok v
          { s₂ with
            store.values := s₂.store.values.insert n v
            journal := s₂.journal.push (.boundVariable n v) } :=
        (bind_of_ok hr).trans (bind_of_ok hv)
      rw [result_of_ok hv] at hresult
      rw [after_of_ok hv] at hleft
      rw [result_of_ok ha, after_of_ok ha, Store.maps_insert, hleft]
      exact .bound hread.symm hresult.symm

/-! ### Runs -/

section

variable {e : Environment} {s : Session} {o : Operation}

lemma result_discard {α : Type} (x : Act α) (s : Session) :
    result (do let _ ← x : Act Unit) s = (result x s).map fun _ => () := by
  cases h : x s with
  | ok a s' => rw [result_bind_of_ok h, result_of_ok h]; rfl
  | error r s' => rw [result_bind_of_error h, result_of_error h]; rfl

lemma after_discard {α : Type} (x : Act α) (s : Session) :
    after (do let _ ← x : Act Unit) s = after x s := by
  cases h : x s with
  | ok a s' => rw [after, bind_of_ok h, after_of_ok h]; rfl
  | error r s' => rw [after, bind_of_error h, after_of_error h]

lemma stored_looks {b : Store} (hb : b.maps.ReadOnly) (h : o.Looks) :
    Keeps (·.store = b) o.act := by
  have hs := Act.steady_store (· = b)
  cases o with
  | limits => exact hs.limits.bind fun _ => .pure _
  | build source limit ts => exact (hs.build source limit ts).bind fun _ => .pure _
  | readTree limit source => exact (hs.readTree limit source).bind fun _ => .pure _
  | readAssignment limit source => exact (hs.readAssignment limit source).bind fun _ => .pure _
  | call name args =>
    exact (Act.stored_call hb (Act.stored_source hb _) name args).bind fun _ => .pure _
  | evaluate limit t => exact (Act.stored_evaluate hb limit t).bind fun _ => .pure _
  | evaluateText text => exact (Act.stored_source hb _ text).bind fun _ => .pure _
  | bindVariable | unbindVariable | bindFunction | unbindFunction | assign => exact h.elim

/-- One operation changes what is bound as the reference says. -/
lemma step_operation (h : s.Settled e) (hs : s.store.maps.ReadOnly) (o : Operation) :
    Maps.Step e s.store.maps o (result o.act s) (after o.act s).store.maps := by
  have hlook : o.Looks → Maps.Step e s.store.maps o (result o.act s)
      (after o.act s).store.maps := by
    intro ho
    rw [stored_looks hs ho s rfl]
    exact .look ho
  cases o with
  | bindVariable n data =>
    cases hv : data.toValue with
    | error r =>
      have hact : Act.bindVariable n data s = .error r s := by rw [Act.bindVariable, hv]; rfl
      rw [Operation.act, result_of_error hact, after_of_error hact]
      exact .bind_refused hv
    | ok v =>
      obtain ⟨s', hact, hstore⟩ : ∃ s', Act.bindVariable n data s = .ok () s' ∧
          s'.store = { s.store with values := s.store.values.insert n v } := by
        rw [Act.bindVariable, hv]
        exact ⟨_, rfl, rfl⟩
      rw [Operation.act, result_of_ok hact, after_of_ok hact, hstore, Store.maps_insert]
      exact .bind hv
  | unbindVariable n =>
    rw [Operation.act, result_discard, after_discard]
    exact Store.maps_erase s.store n ▸ .unbind
  | bindFunction n f => exact Store.maps_insertFunction s.store n f ▸ .bindFunction
  | unbindFunction n =>
    rw [Operation.act, result_discard, after_discard]
    exact Store.maps_eraseFunction s.store n ▸ .unbindFunction
  | assign statement =>
    rw [Operation.act, result_discard, after_discard]
    have hleft : ∀ t, (after (Act.evaluate none t) s).store = s.store := fun t =>
      Act.stored_evaluate hs none t s rfl
    have hmeans : ∀ t, s.store.maps.Means e t (result (Act.evaluate none t) s) := by
      intro t s' hs' hmaps
      have hagree : Relates (Session.Same e) Eq Eq (Act.evaluate none t) (Act.evaluate none t) :=
        Act.agrees_evaluate none t
      exact hagree.result_eq ⟨hs', h, Store.eq_of_maps hmaps⟩
    have ha := assigned_assign h statement
    generalize result (Act.assign statement) s = r at ha
    generalize (after (Act.assign statement) s).store.maps = m at ha
    cases ha with
    | unread ht => exact .assign_unread ht
    | @failed n t r ht hv =>
      rw [hleft t]
      exact .assign_failed ht (hv ▸ hmeans t)
    | @bound n t v ht hv =>
      rw [hleft t]
      exact .assign ht (hv ▸ hmeans t)
  | limits | build | readTree | readAssignment | call | evaluate | evaluateText =>
    exact hlook trivial

lemma run_operations (h : s.Settled e) (hs : s.store.maps.ReadOnly) {os : List Operation}
    (ho : ∀ o ∈ os, o.ReadOnly) : Maps.Run e s.store.maps (s.run os).1 (s.run os).2.store.maps := by
  induction os generalizing s with
  | nil => exact .none
  | cons o os ih =>
    obtain ⟨ho, hos⟩ := List.forall_mem_cons.1 ho
    have hstep := step_operation h hs o
    exact .next hstep (ih (settled_operation o s h) (hstep.readOnly ho hs) hos)

end

/-- **Sessions keep two maps.** From any session whose functions only read, such as one with
nothing bound, and with any operations that bind no other functions, the names are bound as the
reference says after each of them. In the reference a failure leaves both maps, and the outcome
of an operation and the maps after it are determined. With any functions, what an assignment
leaves is what the evaluation of its right side leaves, and its own binding if that has a value,
which it gives. -/
theorem Session.keeps_maps (e : Environment) :
    (∀ (os : List Operation) (s : Session), s.Settled e → s.store.maps.ReadOnly →
      (∀ o ∈ os, o.ReadOnly) → Maps.Run e s.store.maps (s.run os).1 (s.run os).2.store.maps) ∧
    (∀ (m m' : Maps) o r, Maps.Step e m o (.error r) m' → m' = m) ∧
    (∀ (s : Session) o r r' m m', s.Settled e → ¬ o.Looks → Maps.Step e s.store.maps o r m →
      Maps.Step e s.store.maps o r' m' → r = r' ∧ m = m') ∧
    ∀ (s : Session) statement, s.Settled e →
      Assigned e s statement (result (Act.assign statement) s)
        (after (Act.assign statement) s).store.maps :=
  ⟨fun _ _ h hs ho => run_operations h hs ho, fun _ _ _ _ h => h.of_error,
    fun _ _ _ _ _ _ hs ho h h' => h.unique hs ho h',
    fun _ statement h => assigned_assign h statement⟩

/-- A variable is bound and counted up, an assignment fails for its right side, and an operation
for its data. -/
theorem Session.keeps_maps_count :
    let os : List Operation := [.bindVariable "x" (.int 1), .assign "x = x + 1", .assign "x = y",
      .bindVariable "y" (.foreign "object")]
    let s : Session := .initial
    s.Settled .initial ∧ s.store.maps.ReadOnly ∧
      Maps.Run .initial ⟨fun _ => none, fun _ => none⟩ (s.run os).1 (s.run os).2.store.maps ∧
      (s.run os).2.store.maps.values "x" = some (.int 2) ∧
      (s.run os).2.store.maps.values "y" = none := by
  intro os s
  have hs : s.Settled .initial := Session.Reached.initial.settled
  have hr : s.store.maps.ReadOnly := nofun
  refine ⟨hs, hr, (Session.keeps_maps .initial).1 os s hs hr (by simp [os, Operation.ReadOnly]), ?_⟩
  have hcount : Token.scan "x = x + 1" = .ok [⟨.name, "x", 0⟩, ⟨.assign, "=", 2⟩, ⟨.name, "x", 4⟩,
      ⟨.binary (.arith .add), "+", 6⟩, ⟨.int, "1", 8⟩, ⟨.stop, "", 9⟩] := by
    rw [Token.scan_eq]
    rfl
  have hfree : Token.scan "x = y" = .ok [⟨.name, "x", 0⟩, ⟨.assign, "=", 2⟩, ⟨.name, "y", 4⟩,
      ⟨.stop, "", 5⟩] := by
    rw [Token.scan_eq]
    rfl
  simp only [os, Session.run, Operation.act, Act.assign, Act.readAssignment, hcount, hfree,
    Act.evaluate, Act.evaluateWith, Tree.evaluate, Evaluate.run_eval_nil]
  exact ⟨rfl, rfl⟩

end Reckon
