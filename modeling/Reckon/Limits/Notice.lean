import Reckon.Limits.Basic
import Reckon.Text.Quoted
import Reckon.Tree.Basic
import Reckon.Value.Text

/-!
What is reported while expressions are read and evaluated: warnings about settings that are not
followed, and a trace of what is bound, built and evaluated.
-/

namespace Reckon

/-- The two settings. -/
inductive Setting
  | nesting
  | depth
  deriving DecidableEq, Repr

/-- The environment variable that holds the setting. -/
def Setting.name : Setting → String
  | nesting => "EVALEX_MAX_NESTING"
  | depth => "EVALEX_MAX_DEPTH"

def Setting.default : Setting → Int
  | nesting => Limits.defaultNesting
  | depth => Limits.defaultDepth

inductive Notice
  | notInteger (s : Setting) (raw : String)
  | notPositive (s : Setting) (raw : String) (n : Int)
  | capped (requested ceiling : Int)
  | raised (depth nesting : Int)
  | boundVariable (name : String) (v : Value)
  | boundFunction (name : String) (count : Option Int)
  | built (source : String) (t : Tree)
  | evaluated (source : String) (v : Value)

namespace Notice

def warning : Notice → Bool
  | notInteger .. | notPositive .. | capped .. | raised .. => true
  | _ => false

def level (n : Notice) : String :=
  if n.warning then "WARNING" else "DEBUG"

/-- A number of arguments, or none. -/
def count : Option Int → String
  | some n => toString n
  | none => "None"

def text : Notice → String
  | notInteger s raw =>
    "Ignoring " ++ s.name ++ "=" ++ Text.quoted raw ++ ": not an integer, using " ++
      toString s.default
  | notPositive s _ n =>
    "Ignoring " ++ s.name ++ "=" ++ toString n ++ ": must be positive, using " ++ toString s.default
  | capped requested ceiling =>
    "Nesting limit " ++ toString requested ++ " exceeds the recursion limit, using " ++
      toString ceiling
  | raised depth nesting =>
    "EVALEX_MAX_DEPTH=" ++ toString depth ++ " is below the nesting limit, using " ++
      toString nesting
  | boundVariable name v => "Set variable " ++ name ++ " = " ++ v.text
  | boundFunction name n => "Set function " ++ name ++ " (argument_count=" ++ count n ++ ")"
  | built source t => "Parsed " ++ Text.quoted source ++ " into a " ++ t.head ++ " tree"
  | evaluated source v => "Evaluated " ++ Text.quoted source ++ " to " ++ v.text

/-- The setting and the text that the notice says it ignores. -/
def ignored? : Notice → Option (Setting × String)
  | notInteger s raw | notPositive s raw _ => some (s, raw)
  | _ => none

end Notice

end Reckon
