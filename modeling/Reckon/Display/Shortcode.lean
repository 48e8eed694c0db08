import Reckon.Text.Numeral
import Reckon.Text.Pictographs

/-!
Names of pictographs between colons, which a terminal shows as the pictographs themselves. The name
may end in `-emoji` or `-text` to ask for a presentation. A name that is unknown stays as it is, and
its second colon begins no other name.
-/

namespace Reckon.Display

/-- The presentations that may be asked for at the end of a name, with the character
that selects them. -/
def presentations : List (List Char × Char) :=
  [("-emoji:".toList, '\ufe0f'), ("-text:".toList, '\ufe0e')]

/-- A name between colons. -/
structure Shortcode where
  name : List Char
  presentation : List Char
  length : Nat

/-- Reads a name after its first colon; it has no blanks, and `length` counts the colon
that ends it. -/
def Shortcode.read? : List Char → Option Shortcode
  | [] => none
  | c :: cs =>
    match presentations.find? fun p => p.1.isPrefixOf (c :: cs) with
    | some p => some ⟨[], [p.2], p.1.length⟩
    | none =>
      if c = ':' then some ⟨[], [], 1⟩
      else if Text.blank c then none
      else (read? cs).map fun s => { s with name := c :: s.name, length := s.length + 1 }

def hexValue (c : Char) : Nat :=
  if c.isDigit then c.toNat - 48 else c.toNat - 55

def ofHex (s : String) : Char :=
  Char.ofNat (s.toList.foldl (fun n c => 16 * n + hexValue c) 0)

/-- The entries of the table of pictographs. -/
def pictographs : List (String × List Char) :=
  (Text.pictographs.flatMap (·.splitOn ",")).filterMap fun entry =>
    match entry.splitOn " " with
    | [name, codes] => some (name, (codes.splitOn "+").map ofHex)
    | _ => none

def pictograph? (name : List Char) : Option (List Char) :=
  pictographs.lookup (String.ofList (name.map Char.toLower))

/-- Puts pictographs in the place of their names. -/
def replace : List Char → List Char
  | [] => []
  | c :: cs =>
    if c = ':' then
      match Shortcode.read? cs with
      | none => c :: replace cs
      | some s =>
        match pictograph? s.name with
        | some p => p ++ s.presentation ++ replace (cs.drop s.length)
        | none => c :: cs.take s.length ++ replace (cs.drop s.length)
    else c :: replace cs
termination_by cs => cs.length
decreasing_by all_goals simp only [List.length_drop, List.length_cons]; omega

end Reckon.Display
