import Reckon.Display.Screen
import Reckon.Token.Basic

/-!
The table of tokens: a title over a box with a row for each token, its offset to the right of the
first column, its kind and its quoted text. Every column is as wide as its widest cell, with a space
on either side.
-/

namespace Reckon.Display

def spaces (n : Nat) : List Char :=
  List.replicate n ' '

/-- A column: its heading, and whether its cells stand on the right. -/
structure Column where
  heading : String
  right : Bool

def columns : List Column :=
  [⟨"Pos", true⟩, ⟨"Kind", false⟩, ⟨"Text", false⟩]

def title : List Char := "Tokens".toList

/-- The cell of a text that has no line ends. -/
def cell (s : String) : List Char :=
  expand (visible s.toList)

def row (t : Token) : List (List Char) :=
  [cell (toString t.pos), cell t.kind.label, cell (Text.quoted t.text)]

/-- The width of each column: that of its heading or of its widest cell. -/
def widths (rows : List (List (List Char))) : List Nat :=
  rows.foldl (fun ws r => ws.zipWith (fun w c => max w (Text.width c)) r)
    (columns.map fun c => c.heading.length)

def pad (right : Bool) (n : Nat) (cs : List Char) : List Char :=
  let gap := spaces (n - Text.width cs)
  ' ' :: (if right then gap ++ cs else cs ++ gap) ++ [' ']

/-- A line of cells between bars. -/
def cells (bar : Char) (ws : List Nat) (cs : List (List Char)) : List Char :=
  let padded := (columns.zip (ws.zip cs)).map fun (c, n, cs) => pad c.right n cs
  bar :: padded.flatMap (· ++ [bar])

/-- A horizontal line of the box: its ends, its crossings and its stroke. -/
def rule (left crossing right stroke : Char) (ws : List Nat) : List Char :=
  let strokes := ws.map fun n => List.replicate (n + 2) stroke
  left :: [crossing].intercalate strokes ++ [right]

/-- The title in the middle of a width, padded to that width. -/
def centred (n : Nat) : List Char :=
  let before := (n - title.length) / 2
  spaces before ++ title ++ spaces (n - title.length - before)

def table (ts : List Token) : List (List Char) :=
  let rows := ts.map row
  let ws := widths rows
  let head := rule '┏' '┳' '┓' '━' ws
  [centred head.length, head, cells '┃' ws (columns.map fun c => c.heading.toList),
    rule '┡' '╇' '┩' '━' ws] ++ rows.map (cells '│' ws) ++ [rule '└' '┴' '┘' '─' ws]

end Reckon.Display
