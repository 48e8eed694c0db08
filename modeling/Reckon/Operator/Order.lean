import Reckon.Value.Native

/-!
Comparison of values. Two integers compare exactly, an integer and a float as floats; otherwise both
sides have one kind. Tuples of different lengths are unequal and cannot be ordered; tuples of one
length are equal element by element, and ordered by their first unequal elements.
-/

namespace Reckon

/-- How two scalars of comparable kinds compare: not at all if one is NaN. -/
def Value.scalars? : Value → Value → Option (Option Ordering)
  | .int a, .int b => some (some (compare a b))
  | .int a, .float b => some ((Float.ofInt a).toModel.compare b.toModel)
  | .float a, .int b => some (a.toModel.compare (Float.ofInt b).toModel)
  | .float a, .float b => some (a.toModel.compare b.toModel)
  | .boolean a, .boolean b => some (some (compare a b))
  | .string a, .string b => some (some (compare a b))
  | _, _ => none

/-- The comparison holds of a result; none holds of scalars that do not compare. -/
def Comparison.holds : Comparison → Option Ordering → Bool
  | lt, o => o = some .lt
  | le, o => o = some .lt || o = some .eq
  | gt, o => o = some .gt
  | ge, o => o = some .gt || o = some .eq

namespace Value

def operands (op : Binary) (l r : Value) : Error :=
  .type (.operands op l.kind r.kind)

mutual

def equal : Value → Value → Except Error Bool
  | tuple as, tuple bs => if as.length = bs.length then allEqual as bs else .ok false
  | empty, empty => .ok true
  | l, r => match l.scalars? r with
    | some o => .ok (o = some .eq)
    | none => .error (operands .eq l r)

/-- Stops at the first unequal pair. -/
def allEqual : List Value → List Value → Except Error Bool
  | a :: as, b :: bs => do if ← equal a b then allEqual as bs else return false
  | _, _ => .ok true

end

mutual

def order (c : Comparison) : Value → Value → Except Error Bool
  | tuple as, tuple bs =>
    if as.length = bs.length then orderFirst c as bs
    else .error (.type (.lengths (.order c) as.length bs.length))
  | l, r => match l.scalars? r with
    | some o => .ok (c.holds o)
    | none => .error (operands (.order c) l r)

/-- Orders the first unequal pair; equal lists are ordered as equal numbers are. -/
def orderFirst (c : Comparison) : List Value → List Value → Except Error Bool
  | a :: as, b :: bs => do if ← equal a b then orderFirst c as bs else order c a b
  | _, _ => .ok (c.holds (some .eq))

end

end Value

end Reckon
