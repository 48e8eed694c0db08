/-!
The values of the expression language: integers, floats, booleans, strings, tuples and the unit
value. Integers are meant to fit in 64 bits with a sign; `WellFormed` says so at every level of a
value. `identical` is equality of kind and content, where the two zeros of floats are equal and a
NaN differs from itself.
-/

namespace Reckon

inductive Kind
  | int
  | float
  | boolean
  | string
  | tuple
  | empty
  deriving DecidableEq, Repr

def Kind.name : Kind → String
  | .int => "int"
  | .float => "float"
  | .boolean => "boolean"
  | .string => "string"
  | .tuple => "tuple"
  | .empty => "empty"

inductive Value
  | int (n : Int)
  | float (x : Float)
  | boolean (b : Bool)
  | string (s : String)
  | tuple (items : List Value)
  | empty

instance : Inhabited Value := ⟨.empty⟩

/-- The least integer of 64 bits with a sign. -/
def least : Int := -9223372036854775808

/-- The greatest integer of 64 bits with a sign. -/
def greatest : Int := 9223372036854775807

/-- The number fits in 64 bits with a sign. -/
def InRange (n : Int) : Prop := least ≤ n ∧ n ≤ greatest

instance (n : Int) : Decidable (InRange n) := inferInstanceAs (Decidable (_ ∧ _))

namespace Value

def kind : Value → Kind
  | int _ => .int
  | float _ => .float
  | boolean _ => .boolean
  | string _ => .string
  | tuple _ => .tuple
  | empty => .empty

mutual

/-- Every integer in the value, at every level of its tuples, is in range. -/
def WellFormed : Value → Prop
  | int n => InRange n
  | tuple items => AllWellFormed items
  | _ => True

def AllWellFormed : List Value → Prop
  | [] => True
  | v :: vs => v.WellFormed ∧ AllWellFormed vs

end

mutual

/-- The decision of `WellFormed`. -/
def wellFormed : Value → Bool
  | int n => decide (InRange n)
  | tuple items => allWellFormed items
  | _ => true

def allWellFormed : List Value → Bool
  | [] => true
  | v :: vs => v.wellFormed && allWellFormed vs

end

theorem allWellFormed_iff {vs : List Value} : AllWellFormed vs ↔ ∀ v ∈ vs, v.WellFormed := by
  induction vs with
  | nil => simp [AllWellFormed]
  | cons v vs ih => simp [AllWellFormed, ih]

mutual

theorem wellFormed_iff : ∀ v : Value, v.wellFormed = true ↔ v.WellFormed
  | int n => by simp [wellFormed, WellFormed]
  | tuple items => by simpa [wellFormed, WellFormed] using allWellFormed_eq_true items
  | float _ | boolean _ | string _ | empty => by simp [wellFormed, WellFormed]

theorem allWellFormed_eq_true : ∀ vs : List Value, allWellFormed vs = true ↔ AllWellFormed vs
  | [] => by simp [allWellFormed, AllWellFormed]
  | v :: vs => by
    simp [allWellFormed, AllWellFormed, wellFormed_iff v, allWellFormed_eq_true vs]

end

instance (v : Value) : Decidable v.WellFormed := decidable_of_iff _ (wellFormed_iff v)

mutual

/-- Same kind and same content. -/
def identical : Value → Value → Bool
  | int a, int b => a == b
  | float a, float b => a == b
  | boolean a, boolean b => a == b
  | string a, string b => a == b
  | tuple as, tuple bs => allIdentical as bs
  | empty, empty => true
  | _, _ => false

def allIdentical : List Value → List Value → Bool
  | [], [] => true
  | a :: as, b :: bs => a.identical b && allIdentical as bs
  | _, _ => false

end

instance : BEq Value := ⟨identical⟩

/-- The values without those identical to an earlier one. -/
def distinct (vs : List Value) : List Value :=
  vs.foldl (fun seen v => if seen.any (·.identical v) then seen else seen ++ [v]) []

end Value

end Reckon
