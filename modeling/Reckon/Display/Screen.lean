import Reckon.Display.Shortcode
import Reckon.Text.Width

/-!
What a terminal shows of a text. Brackets that enclose something like a tag set their content apart.
Elsewhere a backslash before an opening bracket disappears; a name between colons becomes its
pictograph if the two colons are not set apart; controls that would move the cursor are left out;
and a tab moves to the next multiple of eight columns. The result is a list of lines.
-/

namespace Reckon.Display

/-- Bell, backspace, vertical tab, form feed and carriage return. -/
def moves (c : Char) : Bool :=
  let n := c.toNat
  n = 7 || n = 8 || n = 11 || n = 12 || n = 13

/-- The characters with which the name of a tag begins. -/
def tagStart (c : Char) : Bool :=
  c.isLower || c = '#' || c = '/' || c = '@'

/-- The length of a tag behind its opening bracket, if there is one: it begins like a tag, and its
closing bracket comes before any other opening one. -/
def tag? : List Char → Option Nat
  | [] => none
  | c :: cs =>
    let inner := cs.takeWhile fun d => d ≠ '[' && d ≠ ']'
    if tagStart c && (cs.drop inner.length).head? = some ']' then some (inner.length + 2) else none

/-- The tags of a text and the stretches between them. -/
def segments : List Char → List (List Char)
  | [] => [[]]
  | c :: cs =>
    match if c = '[' then tag? cs else none with
    | some n => [] :: (c :: cs.take n) :: segments (cs.drop n)
    | none =>
      match segments cs with
      | [] => [[c]]
      | s :: ss => (c :: s) :: ss
termination_by cs => cs.length
decreasing_by all_goals simp only [List.length_drop, List.length_cons]; omega

/-- Leaves out the backslash before an opening bracket. -/
def unescape : List Char → List Char
  | [] => []
  | c :: cs => if c = '\\' && cs.head? = some '[' then unescape cs else c :: unescape cs

/-- Puts spaces between pieces of a line in the place of tabs; the first piece begins at `column`. A
piece is measured with the one space that its tab takes at least, and the next one begins at a
multiple of eight. -/
def align (column : Nat) : List (List Char) → List Char
  | [] => []
  | [p] => p
  | p :: q :: ps =>
    let stop := column + Text.width (p ++ [' '])
    let gap := (8 - stop % 8) % 8
    p ++ List.replicate (gap + 1) ' ' ++ align (stop + gap) (q :: ps)

/-- A line with spaces for its tabs. -/
def expand (line : List Char) : List Char :=
  align 0 (line.splitOn '\t')

/-- The characters that appear for a text. -/
def visible (cs : List Char) : List Char :=
  ((segments cs).flatMap fun s => replace (unescape s)).filter fun c => !moves c

/-- The lines that appear for a text behind a lead, which is shown as it is. -/
def shown (lead s : String) : List (List Char) :=
  ((lead.toList ++ visible s.toList).splitOn '\n').map expand

end Reckon.Display
