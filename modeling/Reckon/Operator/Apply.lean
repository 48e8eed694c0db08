import Reckon.Operator.Integer
import Reckon.Operator.Order
import Reckon.Operator.Real

/-!
The operators on values whose operands are all evaluated. Two integers give an integer or an error,
a float among numbers makes both floats, `+` also joins strings, and the logical operators take
booleans only; leaving the right side of `&&` and `||` unevaluated is not done here.
-/

namespace Reckon

def Unary.apply : Unary → Value → Except Error Value
  | not, .boolean b => .ok (.boolean !b)
  | not, v => .error (.type (.condition not.symbol v.kind))
  | neg, .int n => (Integer.negate n).map .int
  | neg, .float x => .ok (.float (-x))
  | pos, .int n => .ok (.int n)
  | pos, .float x => .ok (.float x)
  | op, v => .error (.type (.operand op v.kind))

def Arithmetic.apply (a : Arithmetic) : Value → Value → Except Error Value
  | .int m, .int n => (Integer.apply a m n).map .int
  | .int m, .float y => .ok (.float (Real.apply a (Float.ofInt m) y))
  | .float x, .int n => .ok (.float (Real.apply a x (Float.ofInt n)))
  | .float x, .float y => .ok (.float (Real.apply a x y))
  | .string s, .string t =>
    if a = .add then .ok (.string (s ++ t))
    else .error (Value.operands (.arith a) (.string s) (.string t))
  | l, r => .error (Value.operands (.arith a) l r)

def Binary.apply : Binary → Value → Value → Except Error Value
  | arith a, l, r => a.apply l r
  | eq, l, r => (l.equal r).map .boolean
  | ne, l, r => (l.equal r).map fun b => .boolean !b
  | order c, l, r => (Value.order c l r).map .boolean
  | and, .boolean a, .boolean b => .ok (.boolean (a && b))
  | or, .boolean a, .boolean b => .ok (.boolean (a || b))
  | op, l, r => .error (Value.operands op l r)

end Reckon
