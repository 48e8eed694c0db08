import Reckon.Operator.Basic
import Reckon.Place
import Reckon.Text.Numeral
import Reckon.Text.Quoted
import Reckon.Value.Basic

/-!
Why an expression could not be read, built or evaluated. An error is its cause; `label` names its
class, `message` says it in words, and `text` adds the snippet of the source where the place is
known. A `Fault` is a cause that belongs to none of these classes. Integers of more digits than are
read or written bring two of them about, in a source text and in data; the others stand for the
places where an ill-formed token or tree, built by hand, or an evaluation without end would
otherwise have no answer.
-/

namespace Reckon

/-- Why a text has no tokens. -/
inductive TokenFault
  | character (c : Char)
  | secondPoint (text : String)
  | exponent (text : String)
  | number (text : String)
  | escapeCut
  | escape (c : Char)
  | unclosed
  deriving DecidableEq, Repr

def TokenFault.message : TokenFault → String
  | character c => "Unexpected character: " ++ Text.quoted c.toString
  | secondPoint s => "Invalid number " ++ Text.quoted s ++ ": more than one decimal point"
  | exponent s => "Invalid number " ++ Text.quoted s ++ ": malformed exponent"
  | number s => "Invalid number " ++ Text.quoted s
  | escapeCut => "Unterminated escape sequence"
  | escape c => "Invalid escape sequence: \\" ++ c.toString
  | unclosed => "Unterminated string literal"

/-- Why tokens are no expression, or no assignment. -/
inductive ParseFault
  | nothing
  | missingAfter (operator : String)
  | missingBefore (operator : String)
  | ended
  | unmatchedClose
  | unmatchedOpen
  | unmatchedCall (name : String)
  | assignment
  | unexpected (kind text : String)
  | trailing (text : String)
  | notAssignment
  | noValue
  deriving DecidableEq, Repr

def ParseFault.message : ParseFault → String
  | nothing => "Empty expression"
  | missingAfter op => "Missing operand after " ++ Text.quoted op
  | missingBefore op => "Missing operand before " ++ Text.quoted op
  | ended => "Unexpected end of expression"
  | unmatchedClose => "Unmatched ')'"
  | unmatchedOpen => "Unmatched '('"
  | unmatchedCall name => "Unmatched '(' in call to " ++ name ++ "()"
  | assignment => "Assignment '=' is not allowed inside an expression"
  | unexpected kind text => "Unexpected token: " ++ kind ++ " (" ++ Text.quoted text ++ ")"
  | trailing text => "Unexpected token after expression: " ++ Text.quoted text
  | notAssignment => "Expected an assignment of the form 'name = expression'"
  | noValue => "Missing value after '='"

/-- Variables and functions have names of their own. -/
inductive Namespace
  | variable
  | function
  deriving DecidableEq, Repr

def Namespace.name : Namespace → String
  | .variable => "variable"
  | .function => "function"

/-- What a caller asked for: a kind, or an integer or a float. -/
inductive Wanted
  | kind (k : Kind)
  | number
  deriving DecidableEq, Repr

def Wanted.name : Wanted → String
  | kind k => k.name
  | number => "number"

/-- Why a value has the wrong kind. -/
inductive TypeFault
  | operand (op : Unary) (k : Kind)
  | operands (op : Binary) (left right : Kind)
  | condition (symbol : String) (k : Kind)
  | lengths (op : Binary) (left right : Nat)
  | mismatch (wanted : Wanted) (k : Kind)
  | unconvertible (type : String)
  deriving DecidableEq, Repr

namespace TypeFault

def message : TypeFault → String
  | operand op k => "Operator '" ++ op.symbol ++ "' cannot be applied to " ++ k.name
  | operands op l r =>
    "Operator '" ++ op.symbol ++ "' cannot be applied to " ++ l.name ++ " and " ++ r.name
  | condition symbol k => "Operator '" ++ symbol ++ "' expected boolean, got " ++ k.name
  | lengths op l r =>
    "Operator '" ++ op.symbol ++ "' requires tuples of equal length, got " ++ toString l ++
      " and " ++
      toString r
  | mismatch wanted k => "Expected " ++ wanted.name ++ ", got " ++ k.name
  | unconvertible type => "Cannot convert " ++ type ++ " to a value"

def expected : TypeFault → Option String
  | operand .. | unconvertible _ => none
  | operands _ l _ => some l.name
  | condition .. => some Kind.boolean.name
  | lengths .. => some Kind.tuple.name
  | mismatch wanted _ => some wanted.name

def actual : TypeFault → Option String
  | operand _ k | condition _ k | mismatch _ k => some k.name
  | operands _ _ r => some r.name
  | lengths .. => some Kind.tuple.name
  | unconvertible type => some type

/-- The operator that the message names. -/
def symbol? : TypeFault → Option String
  | operand op _ => some op.symbol
  | operands op .. | lengths op .. => some op.symbol
  | condition symbol _ => some symbol
  | mismatch .. | unconvertible _ => none

end TypeFault

/-- Why integer arithmetic has no result. -/
inductive ArithmeticFault
  | overflow (n : Int)
  | power (base exponent : Int)
  | division
  | modulo
  | negativeExponent (exponent : Int)
  | other (message : String)
  deriving DecidableEq, Repr

def ArithmeticFault.message : ArithmeticFault → String
  | overflow n => "Integer overflow: " ++ toString n ++ " is outside the 64-bit range"
  | power base exponent => "Integer overflow: " ++ toString base ++ " ^ " ++ toString exponent
  | division => "Division by zero"
  | modulo => "Modulo by zero"
  | negativeExponent n => "Negative exponent " ++ toString n ++ " for integer power"
  | other message => message

/-- Why something fails outside the classes of errors: `digits` tells how many digits a text
has that is too long to be read, and `unwritten` that an integer is too long for the message
that names it. -/
inductive Fault
  | range (n : Int)
  | integer (text : String)
  | digits (count : Nat)
  | unwritten
  | decimal (text : String)
  | shortTuple
  | rules
  | operands
  | reentry
  deriving DecidableEq, Repr

/-- The message that an integer has too many digits to become a text or to come from one. -/
def Fault.tooLong (detail : String) : String :=
  "Exceeds the limit (" ++ toString Text.maxDigits ++ " digits) for integer string conversion" ++
    detail ++
    "; use sys.set_int_max_str_digits() to increase the limit"

def Fault.message : Fault → String
  | range n => toString n ++ " is outside the signed 64-bit range"
  | integer text =>
    "invalid literal for int() with base 10: " ++ String.ofList ((Text.quoted text).toList.take 200)
  | digits count => tooLong (": value has " ++ toString count ++ " digits")
  | unwritten => tooLong ""
  | decimal text => "could not convert string to float: " ++ Text.quoted text
  | shortTuple => "A tuple expression has at least two items"
  | rules => "Too many grammar rules are active"
  | operands => "An operand is missing"
  | reentry => "Evaluation reenters itself too often"

/-- Where an error lies: in a source text, or in tokens whose source is not known. -/
structure Site where
  source : Option String
  pos : Nat
  deriving DecidableEq, Repr

def Site.place? (s : Site) : Option Place :=
  s.source.map fun source => ⟨source, s.pos⟩

inductive Error
  | token (fault : TokenFault) (place : Place)
  | parse (fault : ParseFault) (site : Site)
  | nesting (limit : Int) (site : Site)
  | depth (limit : Int)
  | lookup (space : Namespace) (name : String)
  | type (fault : TypeFault)
  | arity (name : String) (expected : Int) (actual : Nat)
  | arithmetic (fault : ArithmeticFault)
  | fault (f : Fault)
  deriving DecidableEq, Repr

namespace Error

def label : Error → String
  | token .. => "ExpressionTokenError"
  | parse .. => "ExpressionParseError"
  | nesting .. | depth _ => "ExpressionDepthError"
  | lookup .. => "ExpressionLookupError"
  | type _ => "ExpressionTypeError"
  | arity .. => "ExpressionArityError"
  | arithmetic _ => "ExpressionArithmeticError"
  | fault (.integer _) | fault (.digits _) | fault .unwritten | fault (.decimal _) => "ValueError"
  | fault _ => "ValidationError"

/-- The offset of the error, if it has one. -/
def pos? : Error → Option Nat
  | token _ p => some p.pos
  | parse _ s | nesting _ s => some s.pos
  | _ => none

/-- The place of the error, if its source is known. -/
def place? : Error → Option Place
  | token _ p => some p
  | parse _ s | nesting _ s => s.place?
  | _ => none

def tooDeep (limit : Int) : String :=
  "Expression too deep: nesting exceeds " ++ toString limit ++ " levels"

/-- The error in words, without a snippet. -/
def message : Error → String
  | token f _ => f.message
  | parse f ⟨some _, _⟩ => f.message
  | parse f ⟨none, pos⟩ => f.message ++ " (at position " ++ toString pos ++ ")"
  | nesting limit _ | depth limit => tooDeep limit
  | lookup space name => "Unknown " ++ space.name ++ ": " ++ name
  | type f => f.message
  | arity name expected actual =>
    "Function " ++ name ++ "() takes " ++ toString expected ++ " argument(s), got " ++
      toString actual
  | arithmetic f => f.message
  | fault f => f.message

/-- The error as it is shown: after the snippet of its place, if that is known. -/
def text (e : Error) : String :=
  match e.place? with
  | some p => p.snippet ++ "\n" ++ e.message
  | none => e.message

end Error

end Reckon
