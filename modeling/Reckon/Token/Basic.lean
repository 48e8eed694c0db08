import Reckon.Operator.Basic
import Reckon.Text.Quoted

/-!
Tokens: a kind, a text and the offset of the first character. A sign is a unary or a binary operator
already here, told apart by what stands before it; `endsOperand` says after which tokens a sign is
binary. The last token of a scan has the kind `stop`.
-/

namespace Reckon

inductive Token.Kind
  | int
  | float
  | string
  | yes
  | no
  | name
  | binary (op : Binary)
  | unary (op : Unary)
  | assign
  | opening
  | closing
  | comma
  | stop
  deriving DecidableEq, Repr

structure Token where
  kind : Token.Kind
  text : String
  pos : Nat
  deriving DecidableEq, Repr

def Unary.name : Unary → String
  | neg => "neg"
  | pos => "pos"
  | not => "not"

def Binary.name : Binary → String
  | arith .add => "plus"
  | arith .sub => "minus"
  | arith .mul => "star"
  | arith .div => "slash"
  | arith .mod => "percent"
  | arith .pow => "caret"
  | eq => "eq"
  | ne => "ne"
  | order .lt => "lt"
  | order .le => "le"
  | order .gt => "gt"
  | order .ge => "ge"
  | and => "and"
  | or => "or"

namespace Token

def Kind.label : Kind → String
  | int => "int"
  | float => "float"
  | string => "string"
  | yes => "true"
  | no => "false"
  | name => "ident"
  | binary op => op.name
  | unary op => op.name
  | assign => "assign"
  | opening => "lparen"
  | closing => "rparen"
  | comma => "comma"
  | stop => "eof"

def Kind.all : List Kind :=
  [int, float, string, yes, no, name, unary .neg, unary .pos, unary .not, assign, opening, closing,
    comma, stop] ++ Binary.all.map binary

/-- The kind with the given label. -/
def Kind.ofLabel? (s : String) : Option Kind :=
  Kind.all.find? (·.label = s)

/-- An operand can end with a token of this kind. -/
def Kind.endsOperand : Kind → Bool
  | int | float | string | yes | no | name | closing => true
  | _ => false

/-- An operand is still missing after a token of this kind. -/
def Kind.wantsOperand : Kind → Bool
  | binary _ | unary _ | comma => true
  | _ => false

def describe (t : Token) : String :=
  "Token(" ++ t.kind.label ++ ", " ++ Text.quoted t.text ++ ", pos=" ++ toString t.pos ++ ")"

end Token

end Reckon
