import Reckon.Limits.Notice
import Reckon.Text.Numeral

/-!
The limits that an environment asks for. A setting that is absent or blank takes its default; one
that is no positive integer is ignored with a warning; the nesting is capped at the ceiling of the
stack, and the depth is raised to the nesting, so that what is built can be evaluated.
-/

namespace Reckon

/-- The raw texts of the two settings, and how many frames the stack holds. -/
structure Environment where
  nesting : Option String
  depth : Option String
  stack : Int
  deriving DecidableEq, Repr

namespace Environment

def initial : Environment := ⟨none, none, 1000⟩

def get (e : Environment) : Setting → Option String
  | .nesting => e.nesting
  | .depth => e.depth

def set (e : Environment) (raw : Option String) : Setting → Environment
  | .nesting => { e with nesting := raw }
  | .depth => { e with depth := raw }

end Environment

namespace Limits

/-- The limit itself or the ceiling of the stack. -/
def cap (stack requested : Int) : Int × List Notice :=
  if ceiling stack < requested then (ceiling stack, [.capped requested (ceiling stack)])
  else (requested, [])

/-- The value of a setting. -/
def setting (s : Setting) : Option String → Int × List Notice
  | none => (s.default, [])
  | some raw =>
    if raw.toList.all Text.blank then (s.default, [])
    else
      match Text.readInt raw with
      | .error _ => (s.default, [.notInteger s raw])
      | .ok n => if n < 1 then (s.default, [.notPositive s raw n]) else (n, [])

/-- The limits of an environment, with what is to be reported about its settings. -/
def ofEnvironment (e : Environment) : Limits × List Notice :=
  let (requested, first) := setting .nesting e.nesting
  let (nesting, second) := cap e.stack requested
  let (depth, third) := setting .depth e.depth
  let notices := first ++ second ++ third
  if depth < nesting then (⟨nesting, nesting⟩, notices ++ [.raised depth nesting])
  else (⟨nesting, depth⟩, notices)

end Limits

end Reckon
