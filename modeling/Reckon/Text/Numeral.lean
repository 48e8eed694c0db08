/-!
Whole numbers as people type them into a setting: blanks around the number are ignored, one sign may
stand in front, the digits may be those of any script, and a single underscore may stand between two
digits. `digitRun` reads the digits; `readInt` the whole text. Numbers of more than `maxDigits`
digits are neither read nor written.
-/

namespace Reckon.Text

/-- The blank characters: tab to carriage return, the information separators, the spaces of every
width and the line and paragraph separators. -/
def blank (c : Char) : Bool :=
  let n := c.toNat
  (0x09 ≤ n && n ≤ 0x0D) || (0x1C ≤ n && n ≤ 0x20) || n = 0x85 || n = 0xA0 || n = 0x1680 ||
    (0x2000 ≤ n && n ≤ 0x200A) || n = 0x2028 || n = 0x2029 || n = 0x202F || n = 0x205F || n = 0x3000

/-- The information separators are blank, but they do not stand around a number. -/
def margin (c : Char) : Bool :=
  blank c && !(0x1C ≤ c.toNat && c.toNat ≤ 0x1F)

/-- Drops the blanks around a number. -/
def strip (cs : List Char) : List Char :=
  ((cs.dropWhile margin).reverse.dropWhile margin).reverse

/-- The code points of the zeros; nine further digits follow each of them in order. -/
def zeros : List Nat :=
  [0x30, 0x660, 0x6F0, 0x7C0, 0x966, 0x9E6, 0xA66, 0xAE6, 0xB66, 0xBE6, 0xC66, 0xCE6, 0xD66, 0xDE6,
    0xE50, 0xED0, 0xF20, 0x1040, 0x1090, 0x17E0, 0x1810, 0x1946, 0x19D0, 0x1A80, 0x1A90, 0x1B50,
    0x1BB0, 0x1C40, 0x1C50, 0xA620, 0xA8D0, 0xA900, 0xA9D0, 0xA9F0, 0xAA50, 0xABF0, 0xFF10, 0x104A0,
    0x10D30, 0x11066, 0x110F0, 0x11136, 0x111D0, 0x112F0, 0x11450, 0x114D0, 0x11650, 0x116C0,
    0x11730, 0x118E0, 0x11950, 0x11C50, 0x11D50, 0x11DA0, 0x16A60, 0x16AC0, 0x16B50, 0x1D7CE,
    0x1D7D8, 0x1D7E2, 0x1D7EC, 0x1D7F6, 0x1E140, 0x1E2F0, 0x1E950, 0x1FBF0]

/-- The value of a decimal digit of any script. -/
def digit? (c : Char) : Option Nat :=
  (zeros.find? fun z => z ≤ c.toNat && c.toNat ≤ z + 9).map (c.toNat - ·)

/-- The digits at the front, and what follows them. `inside` holds after a digit, where an
underscore is passed over if another digit comes next. -/
def digitRun : Bool → List Char → List Nat × List Char
  | _, [] => ([], [])
  | inside, c :: cs =>
    match digit? c with
    | some d => ((d :: (digitRun true cs).1), (digitRun true cs).2)
    | none =>
      if inside && c = '_' && (cs.head?.bind digit?).isSome then digitRun false cs
        else ([], c :: cs)

/-- The number that a list of decimal digits denotes. -/
def ofDigits (ds : List Nat) : Nat :=
  ds.foldl (fun n d => 10 * n + d) 0

/-- Splits off one sign; `true` is minus. -/
def signed : List Char → Bool × List Char
  | '-' :: cs => (true, cs)
  | '+' :: cs => (false, cs)
  | cs => (false, cs)

/-- The most digits of an integer that is read from a text or written as one. -/
def maxDigits : Nat := 4300

/-- Why a text is not read as an integer. -/
inductive Unread
  | malformed
  | digits (count : Nat)
  deriving DecidableEq, Repr

/-- The integer that a text stands for. Zeros in front count as digits; the sign and underscores do
not. Too many digits are refused before anything behind them but an underscore. -/
def readInt (s : String) : Except Unread Int :=
  let (negative, cs) := signed (strip s.toList)
  let (ds, rest) := digitRun false cs
  if ds.isEmpty || rest.head? = some '_' then .error .malformed
  else if maxDigits < ds.length then .error (.digits ds.length)
  else if !rest.isEmpty then .error .malformed
  else .ok (if negative then -(ofDigits ds : Int) else ofDigits ds)

/-- The integer has no more digits than are written. -/
def Writable (n : Int) : Prop := n.natAbs < Nat.pow 10 maxDigits

instance (n : Int) : Decidable (Writable n) := inferInstanceAs (Decidable (_ < _))

end Reckon.Text
