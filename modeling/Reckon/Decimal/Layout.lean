import Reckon.Decimal.Shortest

/-!
How a float is written: its shortest decimal, positionally while the first digit stands between the
fourth place after the point and the sixteenth before it, and with an exponent of at least two
digits otherwise. A float never looks like an integer: positional text always has a point.
-/

namespace Reckon.Decimal

/-- Where positional text ends and how long an exponent is at least. -/
structure Layout where
  lowest : Int
  highest : Int
  width : Nat

/-- The layout of floats: `0.0001` to `9999999999999998.0`, then `1e-05` and `1e+16`. -/
def floats : Layout := ⟨-4, 15, 2⟩

/-- The digits without the zeros at the end. -/
def significant (d : Decimal) : List Char :=
  ((Nat.toDigits 10 d.digits).reverse.dropWhile (· = '0')).reverse

def zeroes (n : Nat) : List Char :=
  List.replicate n '0'

/-- Digits with a point after the first `point` of them. -/
def positional (ds : List Char) (point : Int) : List Char :=
  if point ≤ 0 then '0' :: '.' :: zeroes (-point).toNat ++ ds
  else if ds.length ≤ point.toNat then ds ++ zeroes (point.toNat - ds.length) ++ ['.', '0']
  else ds.take point.toNat ++ '.' :: ds.drop point.toNat

def scientific (width : Nat) (ds : List Char) (lead : Int) : List Char :=
  let power := Nat.toDigits 10 lead.natAbs
  let mantissa := match ds with
    | d :: e :: rest => d :: '.' :: e :: rest
    | short => short
  mantissa ++ 'e' :: (if lead < 0 then '-' else '+') :: zeroes (width - power.length) ++ power

def Layout.write (f : Layout) (d : Decimal) : List Char :=
  let point := (Nat.toDigits 10 d.digits).length + d.exponent
  let ds := significant d
  if f.lowest ≤ point - 1 && point - 1 ≤ f.highest then positional ds point
  else scientific f.width ds (point - 1)

def write (x : Float) : String :=
  let sign (s : Float.Model.UnpackedFloat.Sign) (cs : List Char) : String :=
    String.ofList (match s with | .negative => '-' :: cs | .positive => cs)
  match x.toModel.unpack with
  | .notANumber => "nan"
  | .infinity s => sign s ['i', 'n', 'f']
  | .zero s => sign s ['0', '.', '0']
  | .finite s .. => sign s (floats.write (shortest x.abs))

end Reckon.Decimal
