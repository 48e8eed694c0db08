import Reckon.Value.Native

/-!
Integer arithmetic: the exact result if it fits in 64 bits, an error otherwise. Division rounds
toward zero and the remainder has the sign of the dividend; the one quotient that does not fit makes
the remainder fail as well.
-/

namespace Reckon.Integer

/-- The number itself, if it fits. Operands in range have no result of too many digits
to be written. -/
def check (n : Int) : Except Error Int :=
  if InRange n then .ok n else .error (.arithmetic (.overflow n))

/-- The quotient of the magnitudes, negative if the signs differ. -/
def quotient (a b : Int) : Int :=
  let q : Int := (a.natAbs / b.natAbs : Nat)
  if (a < 0) = (b < 0) then q else -q

def divide (a b : Int) : Except Error Int :=
  if b = 0 then .error (.arithmetic .division) else check (quotient a b)

def remainder (a b : Int) : Except Error Int :=
  if b = 0 then .error (.arithmetic .modulo) else (check (quotient a b)).map fun q => a - b * q

/-- Powers of `0`, `1` and `-1` always fit; no other base has a power of 64 or more that does. -/
def power (base exponent : Int) : Except Error Int :=
  if exponent < 0 then .error (.arithmetic (.negativeExponent exponent))
  else if base = 0 then .ok (if exponent = 0 then 1 else 0)
  else if base = 1 then .ok 1
  else if base = -1 then .ok (if exponent % 2 = 0 then 1 else -1)
  else if 64 ≤ exponent then .error (.arithmetic (.power base exponent))
  else check (Int.pow base exponent.toNat)

def negate (n : Int) : Except Error Int :=
  check (-n)

def apply : Arithmetic → Int → Int → Except Error Int
  | .add, a, b => check (a + b)
  | .sub, a, b => check (a - b)
  | .mul, a, b => check (a * b)
  | .div, a, b => divide a b
  | .mod, a, b => remainder a b
  | .pow, a, b => power a b

end Reckon.Integer
