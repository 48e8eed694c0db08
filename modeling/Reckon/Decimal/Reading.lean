import Reckon.Decimal.Basic
import Reckon.Text.Numeral

/-!
Reading a float: blanks around it, a sign, then `inf`, `infinity` or `nan` in any case, or digits
with an optional point and an optional exponent. The value is the nearest float.
-/

namespace Reckon.Decimal

open Text

/-- The exponent at the end of a number; no exponent is zero. -/
def exponent? : List Char → Option Int
  | [] => some 0
  | c :: cs =>
    let (negative, cs) := signed cs
    match digitRun false cs with
    | (d :: ds, []) =>
      if c = 'e' || c = 'E' then
        some (if negative then -(ofDigits (d :: ds) : Int) else ofDigits (d :: ds))
      else none
    | _ => none

/-- An unsigned number with a point or an exponent or neither. -/
def ofChars? (cs : List Char) : Option Decimal :=
  let (whole, rest) := digitRun false cs
  let (part, rest) := match rest with
    | '.' :: cs => digitRun false cs
    | cs => ([], cs)
  if whole.isEmpty && part.isEmpty then none
  else (exponent? rest).map fun e => ⟨ofDigits (whole ++ part), e - part.length⟩

def named? (cs : List Char) : Option Float :=
  match String.ofList (cs.map Char.toLower) with
  | "inf" | "infinity" => some (1.0 / 0.0)
  | "nan" => some (0.0 / 0.0)
  | _ => none

def read? (s : String) : Option Float :=
  let (negative, cs) := signed (strip s.toList)
  let size := named? cs <|> (ofChars? cs).map toFloat
  if negative then size.map (- ·) else size

end Reckon.Decimal
