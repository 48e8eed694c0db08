/-!
Decimals `digits · 10 ^ exponent` and their meeting point with binary floats. Every finite float is
a whole number of units of `2⁻¹⁰⁷⁴`, the smallest positive float, so it has an exact decimal with
1074 places; in the other direction a decimal is rounded to the nearest float, ties to even.
-/

namespace Reckon

/-- The number `digits · 10 ^ exponent`. -/
structure Decimal where
  digits : Nat
  exponent : Int
  deriving DecidableEq, Repr

namespace Decimal

/-- The nearest float. -/
def toFloat (d : Decimal) : Float :=
  match d.exponent with
  | .ofNat e => Float.ofScientific d.digits false e
  | .negSucc e => Float.ofScientific d.digits true (e + 1)

/-- The binary exponent of the smallest positive float is `-places`. -/
def places : Nat := 1074

/-- The magnitude of a finite float in units of the smallest positive float. -/
def units (x : Float) : Nat :=
  match x.toModel.unpack with
  | .finite _ m e _ => m <<< (e + places).toNat
  | _ => 0

/-- The number one in these units. -/
def one : Nat := 1 <<< places

/-- The exact magnitude of a finite float. -/
def exact (x : Float) : Decimal :=
  ⟨units x * Nat.pow 5 places, -places⟩

/-- The float of a sign and a number of units, rounded if it has more bits than a float holds. -/
def ofUnits (negative : Bool) (n : Nat) : Float :=
  let sign : Float.Model.UnpackedFloat.Sign := if negative then .negative else .positive
  if n = 0 then Float.ofModel (.pack (.zero sign))
  else Float.ofModel (.pack (.round .binary64 sign n (-places)))

end Decimal

end Reckon
