import Reckon.Session.Names
import Reckon.Value.Native

/-!
What names are bound to: variables to values and functions to host functions, in two spaces that do
not meet. A host function is given by the requests it makes: it may look at variables, bind and
unbind names of both spaces, have a source text evaluated and go on with the outcome, and in the end
gives data or fails.
-/

namespace Reckon

/-- What a host function does, request by request. -/
inductive Proc
  | give (data : Native)
  | fail (e : Error)
  | lookup (name : String) (next : Option Value → Proc)
  | bind (name : String) (data : Native) (next : Proc)
  | unbind (name : String) (next : Option Value → Proc)
  | bindFunction (name own : String) (body : List Value → Proc) (count : Option Int) (next : Proc)
  | unbindFunction (name : String) (next : Bool → Proc)
  | evaluate (source : String) (next : Except Error Value → Proc)

/-- Goes on with the result of a computation that may fail. -/
def Proc.ofExcept {α : Type} (r : Except Error α) (next : α → Proc) : Proc :=
  match r with
  | .ok a => next a
  | .error e => .fail e

/-- A host function with its own name, and the number of arguments it is called with, if that is
fixed. -/
structure Function where
  name : String
  body : List Value → Proc
  count : Option Int

/-- The function with another number of arguments, if one is given. -/
def Function.withCount (f : Function) : Option Int → Function
  | some n => { f with count := some n }
  | none => f

/-- The function as it is shown: its own name and its number of arguments. -/
def Function.describe (f : Function) : String :=
  let count := match f.count with
    | some n => toString n
    | none => "None"
  "Function(" ++ Text.quoted f.name ++ ", argument_count=" ++ count ++ ")"

structure Store where
  values : Names Value
  functions : Names Function

namespace Store

def empty : Store := ⟨.empty, .empty⟩

/-- Quoted names in brackets. -/
def list (names : List String) : String :=
  "[" ++ ", ".intercalate (names.map Text.quoted) ++ "]"

/-- The store as it is shown: the names that are bound, in order. -/
def describe (s : Store) : String :=
  "MappingConfiguration(variables=" ++ list (s.values.entries.map (·.1)) ++ ", functions=" ++
    list (s.functions.entries.map (·.1)) ++ ")"

end Store

end Reckon
