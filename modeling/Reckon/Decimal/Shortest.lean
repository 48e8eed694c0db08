import Reckon.Decimal.Basic

/-!
The fewest digits that read back. For one digit, two digits and so on the two decimals next to a
float on the grid of that many digits are tried, the nearer one first, and the first that rounds to
the float is its shortest decimal; the last grid holds the float itself.
-/

namespace Reckon.Decimal

/-- How many decimal digits a number has. -/
def size (n : Nat) : Nat :=
  (Nat.toDigits 10 n).length

/-- The neighbours of `n` among the multiples of `10 ^ drop`, in these multiples, the nearer first;
of two equally near the even one first. -/
def neighbours (n drop : Nat) : List Nat :=
  let step := Nat.pow 10 drop
  let low := n / step
  let rest := 2 * (n % step)
  if rest < step || (rest = step && low % 2 = 0) then [low, low + 1] else [low + 1, low]

/-- A decimal without the last `drop` digits of the exact one, if one of the two reads back. -/
def cut? (x : Float) (e : Decimal) (drop : Nat) : Option Decimal :=
  ((neighbours e.digits drop).map fun q => ⟨q, e.exponent + drop⟩).find? fun d => d.toFloat == x

/-- Drops as many digits of the exact decimal as possible, at most `drop`. -/
def shorten (x : Float) (e : Decimal) : Nat → Decimal
  | 0 => e
  | drop + 1 =>
    match cut? x e (drop + 1) with
    | some d => d
    | none => shorten x e drop

/-- The shortest decimal of a positive finite float. -/
def shortest (x : Float) : Decimal :=
  shorten x (exact x) (size (exact x).digits - 1)

end Reckon.Decimal
