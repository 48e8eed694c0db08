/-!
A place in a source text: the offset of a character, its line and column, both counted from one, and
the two-line snippet that shows the line with a caret under the character. The offset may lie at or
past the end of the text.
-/

namespace Reckon

structure Place where
  source : String
  pos : Nat
  deriving DecidableEq, Repr

namespace Place

/-- The characters before the place. -/
def before (p : Place) : List Char :=
  p.source.toList.take p.pos

def line (p : Place) : Nat :=
  p.before.count '\n' + 1

/-- The offset at which the line begins. -/
def start (p : Place) : Nat :=
  p.before.length - (p.before.reverse.takeWhile (· ≠ '\n')).length

def column (p : Place) : Nat :=
  p.pos - p.start + 1

/-- The text of the line. -/
def lineText (p : Place) : List Char :=
  (p.source.toList.splitOn '\n').getD (p.line - 1) []

/-- The line number, right-aligned to four columns, and a bar. -/
def margin (p : Place) : List Char :=
  let number := Nat.toDigits 10 p.line
  List.replicate (4 - number.length) ' ' ++ number ++ [' ', '|', ' ']

def top (p : Place) : List Char :=
  p.margin ++ p.lineText

def bottom (p : Place) : List Char :=
  List.replicate (p.margin.length + p.column - 1) ' ' ++ ['^']

def snippet (p : Place) : String :=
  String.ofList (p.top ++ '\n' :: p.bottom)

end Place

end Reckon
