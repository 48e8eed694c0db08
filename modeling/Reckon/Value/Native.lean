import Reckon.Error

/-!
Data of the host program and its way into and out of values. Any data made of nothing, booleans,
integers, floats, texts, lists, tuples and values becomes a value, unless an integer is out of range
or an object of another type occurs; the leftmost offender decides the error, which an integer of
too many digits has no message for. On the way out a list comes back as a tuple.
-/

namespace Reckon

inductive Native
  | nothing
  | boolean (b : Bool)
  | int (n : Int)
  | float (x : Float)
  | string (s : String)
  | list (items : List Native)
  | tuple (items : List Native)
  | value (v : Value)
  | foreign (type : String)

instance : Inhabited Native := ⟨.nothing⟩

/-- The error of an integer that does not fit. Its message writes the integer out. -/
def Value.overflow (n : Int) : Error :=
  if Text.Writable n then .arithmetic (.overflow n) else .fault .unwritten

/-- An integer of any size as a value, if it fits. -/
def Value.ofInt (n : Int) : Except Error Value :=
  if InRange n then .ok (.int n) else .error (overflow n)

mutual

def Native.toValue : Native → Except Error Value
  | .nothing => .ok .empty
  | .boolean b => .ok (.boolean b)
  | .int n => Value.ofInt n
  | .float x => .ok (.float x)
  | .string s => .ok (.string s)
  | .list items | .tuple items => (Native.toValues items).map .tuple
  | .value v => .ok v
  | .foreign type => .error (.type (.unconvertible type))

def Native.toValues : List Native → Except Error (List Value)
  | [] => .ok []
  | x :: xs => do
    let v ← x.toValue
    let vs ← Native.toValues xs
    return v :: vs

end

mutual

def Value.toNative : Value → Native
  | .int n => .int n
  | .float x => .float x
  | .boolean b => .boolean b
  | .string s => .string s
  | .tuple items => .tuple (Value.toNatives items)
  | .empty => .nothing

def Value.toNatives : List Value → List Native
  | [] => []
  | v :: vs => v.toNative :: Value.toNatives vs

end

namespace Value

/-! ### Values made directly from data of one type -/

/-- The kinds of value that are made from a single datum. -/
inductive Plain
  | int
  | float
  | boolean
  | string
  deriving DecidableEq, Repr

/-- A value of the given kind from a datum of that type; a float also takes an integer. -/
def construct? : Plain → Native → Option Value
  | .int, .int n => if InRange n then some (.int n) else none
  | .float, .float x => some (.float x)
  | .float, .int n => let x := Float.ofInt n; if x.isFinite then some (.float x) else none
  | .boolean, .boolean b => some (.boolean b)
  | .string, .string s => some (.string s)
  | _, _ => none

/-! ### The content of a value of a required kind -/

def mismatch (wanted : Wanted) (v : Value) : Error :=
  .type (.mismatch wanted v.kind)

def asInt : Value → Except Error Int
  | int n => .ok n
  | v => .error (mismatch (.kind .int) v)

def asFloat : Value → Except Error Float
  | float x => .ok x
  | v => .error (mismatch (.kind .float) v)

/-- An integer counts as the nearest float. -/
def asNumber : Value → Except Error Float
  | float x => .ok x
  | int n => .ok (Float.ofInt n)
  | v => .error (mismatch .number v)

def asBoolean : Value → Except Error Bool
  | boolean b => .ok b
  | v => .error (mismatch (.kind .boolean) v)

def asString : Value → Except Error String
  | string s => .ok s
  | v => .error (mismatch (.kind .string) v)

def asTuple : Value → Except Error (List Value)
  | tuple items => .ok items
  | v => .error (mismatch (.kind .tuple) v)

def asEmpty : Value → Except Error Unit
  | empty => .ok ()
  | v => .error (mismatch (.kind .empty) v)

end Value

end Reckon
