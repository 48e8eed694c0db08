import Reckon.Tree.Basic
import Reckon.Value.Text

/-!
The printed form of a tree: binary operators and tuples stand in parentheses, a prefix operator
directly before its operand.
-/

namespace Reckon.Tree

mutual

def text : Tree → String
  | literal v => v.text
  | name n => n
  | unary op t => op.symbol ++ t.text
  | binary op l r => "(" ++ l.text ++ " " ++ op.symbol ++ " " ++ r.text ++ ")"
  | call f ts => f ++ "(" ++ ", ".intercalate (texts ts) ++ ")"
  | tuple ts => "(" ++ ", ".intercalate (texts ts) ++ ")"

def texts : List Tree → List String
  | [] => []
  | t :: ts => t.text :: texts ts

end

end Reckon.Tree
