import Reckon.Decimal.Basic
import Reckon.Operator.Basic

/-!
Float arithmetic never fails. A zero divisor gives an infinity or NaN by the signs alone, the
remainder is exact and has the sign of the dividend, and a power that has no finite value is
an infinity or NaN: a zero base with a negative exponent gives positive infinity, a negative
base with a fractional exponent NaN, and an overflow the infinity whose sign the parity of
the exponent decides.
-/

namespace Reckon.Real

def infinity : Float := 1.0 / 0.0
def nan : Float := 0.0 / 0.0

/-- The sign bit: set for negative numbers and for negative zero. -/
def negative (x : Float) : Bool :=
  match x.toModel.unpack with
  | .finite .negative .. | .zero .negative | .infinity .negative => true
  | _ => false

def signedInfinity (negative : Bool) : Float :=
  if negative then -infinity else infinity

def divide (a b : Float) : Float :=
  if b == 0.0 then
    if a == 0.0 || a.isNaN then nan else signedInfinity (negative a != negative b)
  else a / b

/-- The remainder of the magnitudes, in units of the smallest float, with the sign of `a`. -/
def remainder (a b : Float) : Float :=
  if b == 0.0 || a.isInf then nan
  else if a.isNaN || b.isNaN then nan
  else if b.isInf then a
  else Decimal.ofUnits (negative a) (Decimal.units a % Decimal.units b)

/-- The float is a whole number. -/
def whole (x : Float) : Bool :=
  x.isFinite && Decimal.units x % Decimal.one = 0

/-- The float is an odd whole number. -/
def odd (x : Float) : Bool :=
  x.isFinite && Decimal.units x % (2 * Decimal.one) = Decimal.one

/-- The power where `pow` has one. The operands for which there is none are told apart first, and of
what overflows the sign is made up here. -/
def powerBy (pow : Float → Float → Float) (base exponent : Float) : Float :=
  if base.isFinite && exponent.isFinite then
    if base == 0.0 && exponent < 0.0 then infinity
    else if base < 0.0 && !whole exponent then nan
    else
      let p := pow base exponent
      if p.isInf then signedInfinity (base < 0.0 && odd exponent) else p
  else pow base exponent

def power : Float → Float → Float :=
  powerBy Float.pow

def apply : Arithmetic → Float → Float → Float
  | .add, a, b => a + b
  | .sub, a, b => a - b
  | .mul, a, b => a * b
  | .div, a, b => divide a b
  | .mod, a, b => remainder a b
  | .pow, a, b => power a b

end Reckon.Real
