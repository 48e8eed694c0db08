import Reckon.Error
import Reckon.Text.Alphanumeric
import Reckon.Token.Basic

/-!
The lexeme at the front of a text: its kind, the text of its token, and how many characters follow
its first one. A number takes in as much as it can, and then no point, letter, digit or underscore
may follow; an integer too large for 64 bits is a float. A string ends at the first quote like its
own that no backslash escapes. A fault comes with its offset from the first character.
-/

namespace Reckon.Token

structure Lexeme where
  kind : Kind
  text : String
  extra : Nat
  deriving DecidableEq, Repr

/-! ### Numbers -/

/-- The digits of the greatest integer. -/
def greatestDigits : List Char :=
  Nat.toDigits 10 greatest.toNat

/-- A run of digits denotes an integer in range: without leading zeros it is shorter than the
greatest one, or as long and not after it in the order of texts. -/
def fits (ds : List Char) : Bool :=
  let ds := ds.dropWhile (· = '0')
  ds.length < greatestDigits.length ||
    (ds.length = greatestDigits.length && !decide (greatestDigits < ds))

/-- A point and the digits after it, and the rest. -/
def fraction : List Char → List Char × List Char
  | '.' :: cs => ('.' :: cs.takeWhile Char.isDigit, cs.dropWhile Char.isDigit)
  | cs => ([], cs)

/-- An optional sign, and the rest. -/
def sign : List Char → List Char × List Char
  | '+' :: cs => (['+'], cs)
  | '-' :: cs => (['-'], cs)
  | cs => ([], cs)

/-- An exponent with at least one digit, and the rest. -/
def exponent : List Char → List Char × List Char
  | [] => ([], [])
  | c :: cs =>
    let (s, rest) := sign cs
    let ds := rest.takeWhile Char.isDigit
    if (c = 'e' || c = 'E') && !ds.isEmpty then (c :: s ++ ds, rest.dropWhile Char.isDigit)
    else ([], c :: cs)

def number (c : Char) (cs : List Char) : Except (TokenFault × Nat) Lexeme :=
  let ds := c :: cs.takeWhile Char.isDigit
  let (f, rest) := fraction (cs.dropWhile Char.isDigit)
  let (e, rest) := exponent rest
  let text := ds ++ f ++ e
  let number : Lexeme :=
    ⟨if f.isEmpty && e.isEmpty && fits ds then .int else .float, String.ofList text,
      text.length - 1⟩
  match rest with
  | [] => .ok number
  | d :: _ =>
    let text := String.ofList (text ++ [d])
    if d = '.' then .error (.secondPoint text, 0)
    else if d = 'e' || d = 'E' then .error (.exponent text, 0)
    else if Text.alphanumeric d || d = '_' then .error (.number text, 0)
    else .ok number

/-! ### Strings -/

/-- The character that a backslash and this one stand for. -/
def unescape? : Char → Option Char
  | '\\' => some '\\'
  | '"' => some '"'
  | '\'' => some '\''
  | 'n' => some '\n'
  | 't' => some '\t'
  | 'r' => some '\r'
  | _ => none

/-- The content of a string up to the closing quote `q`, and the length of the whole string; the
first character stands at offset `k` from the opening quote. -/
def contents (q : Char) : Nat → List Char → Except (TokenFault × Nat) (List Char × Nat)
  | _, [] => .error (.unclosed, 0)
  | k, c :: cs =>
    if c = '\\' then
      match cs with
      | [] => .error (.escapeCut, k)
      | d :: cs =>
        match unescape? d with
        | none => .error (.escape d, k)
        | some d => (contents q (k + 2) cs).map fun r => (d :: r.1, r.2)
    else if c = q then .ok ([], k + 1)
    else (contents q (k + 1) cs).map fun r => (c :: r.1, r.2)

/-! ### Words and signs -/

def wordChar (c : Char) : Bool :=
  c.isAlphanum || c = '_'

def word (c : Char) (cs : List Char) : Lexeme :=
  let text := String.ofList (c :: cs.takeWhile wordChar)
  ⟨if text = "true" then .yes else if text = "false" then .no else .name, text,
    (cs.takeWhile wordChar).length⟩

/-- The operators of two characters. -/
def pair? : Char → Char → Option Kind
  | '=', '=' => some (.binary .eq)
  | '!', '=' => some (.binary .ne)
  | '<', '=' => some (.binary (.order .le))
  | '>', '=' => some (.binary (.order .ge))
  | '&', '&' => some (.binary .and)
  | '|', '|' => some (.binary .or)
  | _, _ => none

/-- The operators and marks of one character; a sign is binary after an operand. -/
def single? (after : Bool) : Char → Option Kind
  | '+' => some (if after then .binary (.arith .add) else .unary .pos)
  | '-' => some (if after then .binary (.arith .sub) else .unary .neg)
  | '*' => some (.binary (.arith .mul))
  | '/' => some (.binary (.arith .div))
  | '%' => some (.binary (.arith .mod))
  | '^' => some (.binary (.arith .pow))
  | '<' => some (.binary (.order .lt))
  | '>' => some (.binary (.order .gt))
  | '!' => some (.unary .not)
  | '=' => some .assign
  | '(' => some .opening
  | ')' => some .closing
  | ',' => some .comma
  | _ => none

/-- The lexeme that begins with `c`; `after` holds if the token before it ends an operand. -/
def lexeme (after : Bool) (c : Char) (cs : List Char) : Except (TokenFault × Nat) Lexeme :=
  if c = '"' || c = '\'' then
    (contents c 1 cs).map fun r => ⟨.string, String.ofList r.1, r.2 - 1⟩
  else if c.isDigit then number c cs
  else if c.isAlpha || c = '_' then .ok (word c cs)
  else
    match cs.head?.bind (pair? c), single? after c with
    | some kind, _ => .ok ⟨kind, String.ofList (c :: cs.take 1), 1⟩
    | none, some kind => .ok ⟨kind, c.toString, 0⟩
    | none, none => .error (.character c, 0)

end Reckon.Token
