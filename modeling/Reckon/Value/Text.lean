import Reckon.Value.Basic
import Reckon.Decimal.Layout

/-!
The printed form of a value. Integers and floats are written as numbers, strings in double
quotes with backslashes before backslashes and double quotes only, tuples in parentheses, the
unit value as `()`.
-/

namespace Reckon.Value

/-- The content of a string between its quotes. -/
def encode : List Char → List Char
  | [] => []
  | c :: cs => if c = '"' || c = '\\' then '\\' :: c :: encode cs else c :: encode cs

def quote (s : String) : String :=
  String.ofList ('"' :: encode s.toList ++ ['"'])

mutual

def text : Value → String
  | int n => toString n
  | float x => Decimal.write x
  | boolean b => if b then "true" else "false"
  | string s => quote s
  | tuple items => "(" ++ ", ".intercalate (texts items) ++ ")"
  | empty => "()"

def texts : List Value → List String
  | [] => []
  | v :: vs => v.text :: texts vs

end

end Reckon.Value
