import Reckon.Operator.Basic
import Reckon.Value.Basic

/-!
Operator trees. A tree may hold any values as literals and any texts as names; a tuple expression is
meant to have at least two items, which `WellFormed` adds to what it asks of the literals.
-/

namespace Reckon

inductive Tree
  | literal (v : Value)
  | name (n : String)
  | unary (op : Unary) (operand : Tree)
  | binary (op : Binary) (left right : Tree)
  | call (name : String) (args : List Tree)
  | tuple (items : List Tree)

instance : Inhabited Tree := ⟨.literal .empty⟩

namespace Tree

/-- What kind of node the root is. -/
def head : Tree → String
  | literal _ => "Literal"
  | name _ => "VariableRef"
  | unary .. => "UnaryExpr"
  | binary .. => "BinaryExpr"
  | call .. => "FuncCall"
  | tuple _ => "TupleExpr"

def children : Tree → List Tree
  | literal _ | name _ => []
  | unary _ t => [t]
  | binary _ l r => [l, r]
  | call _ ts | tuple ts => ts

mutual

/-- Literals are well-formed and tuples have at least two items. -/
def WellFormed : Tree → Prop
  | literal v => v.WellFormed
  | name _ => True
  | unary _ t => t.WellFormed
  | binary _ l r => l.WellFormed ∧ r.WellFormed
  | call _ ts => AllWellFormed ts
  | tuple ts => 2 ≤ ts.length ∧ AllWellFormed ts

def AllWellFormed : List Tree → Prop
  | [] => True
  | t :: ts => t.WellFormed ∧ AllWellFormed ts

end

mutual

/-- Same nodes, operators and names, and identical literals. -/
def identical : Tree → Tree → Bool
  | literal a, literal b => a.identical b
  | name a, name b => a == b
  | unary o a, unary p b => o == p && a.identical b
  | binary o a b, binary p c d => o == p && a.identical c && b.identical d
  | call f as, call g bs => f == g && allIdentical as bs
  | tuple as, tuple bs => allIdentical as bs
  | _, _ => false

def allIdentical : List Tree → List Tree → Bool
  | [], [] => true
  | a :: as, b :: bs => a.identical b && allIdentical as bs
  | _, _ => false

end

end Tree

end Reckon
