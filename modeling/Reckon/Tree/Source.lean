import Reckon.Token.Scan
import Reckon.Tree.Build

/-!
Trees from a source text: of an expression, or of an assignment `name = expression` with its name.
-/

namespace Reckon.Tree

def ofSource (limit : Int) (source : String) : Except Error Tree := do
  build (some source) limit (← Token.scan source)

/-- The name and the tokens of the value, from the tokens of an assignment. -/
def assigned (source : String) : List Token → Except Error (String × List Token)
  | n :: t :: value =>
    let refuse (f : ParseFault) (t : Token) := .error (.parse f ⟨some source, t.pos⟩)
    if n.kind ≠ .name then refuse .notAssignment n
    else if t.kind ≠ .assign then refuse .notAssignment t
    else if value.head?.all (·.kind = .stop) then refuse .noValue t
    else .ok (n.text, value)
  | ts => .error (.parse .notAssignment ⟨some source, (ts.head?.map (·.pos)).getD 0⟩)

def ofAssignment (limit : Int) (source : String) : Except Error (String × Tree) := do
  let (n, value) ← assigned source (← Token.scan source)
  return (n, ← build (some source) limit value)

end Reckon.Tree
