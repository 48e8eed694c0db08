/-!
The operators and how they are written. `level` is the binding strength of a binary operator, from
`||` up to `^`; only `^` groups to the right.
-/

namespace Reckon

inductive Unary
  | neg
  | pos
  | not
  deriving DecidableEq, Repr

inductive Arithmetic
  | add
  | sub
  | mul
  | div
  | mod
  | pow
  deriving DecidableEq, Repr

inductive Comparison
  | lt
  | le
  | gt
  | ge
  deriving DecidableEq, Repr

inductive Binary
  | arith (a : Arithmetic)
  | eq
  | ne
  | order (c : Comparison)
  | and
  | or
  deriving DecidableEq, Repr

def Unary.symbol : Unary → String
  | neg => "-"
  | pos => "+"
  | not => "!"

def Arithmetic.symbol : Arithmetic → String
  | add => "+"
  | sub => "-"
  | mul => "*"
  | div => "/"
  | mod => "%"
  | pow => "^"

def Comparison.symbol : Comparison → String
  | lt => "<"
  | le => "<="
  | gt => ">"
  | ge => ">="

namespace Binary

def symbol : Binary → String
  | arith a => a.symbol
  | eq => "=="
  | ne => "!="
  | order c => c.symbol
  | and => "&&"
  | or => "||"

def level : Binary → Nat
  | or => 2
  | and => 3
  | eq | ne => 4
  | order _ => 5
  | arith .add | arith .sub => 6
  | arith .mul | arith .div | arith .mod => 7
  | arith .pow => 8

def rightAssociative : Binary → Bool
  | arith .pow => true
  | _ => false

theorem elementLevel_le (op : Binary) : 2 ≤ op.level := by
  rcases op with a | _ | _ | c | _ | _ <;> try cases a
  all_goals simp [level]

theorem level_of_right {op : Binary} (h : op.rightAssociative) : op.level = 8 := by
  rcases op with a | _ | _ | c | _ | _ <;> try cases a
  all_goals simp_all [level, rightAssociative]

theorem level_of_left {op : Binary} (h : op.rightAssociative = false) : op.level ≤ 7 := by
  rcases op with a | _ | _ | c | _ | _ <;> try cases a
  all_goals simp_all [level, rightAssociative]

theorem level_le (op : Binary) : op.level ≤ 8 := by
  cases h : op.rightAssociative with
  | true => exact Nat.le_of_eq (level_of_right h)
  | false => exact Nat.le_succ_of_le (level_of_left h)

/-- The operators that may leave their right side unevaluated. -/
def logical : Binary → Bool
  | and | or => true
  | _ => false

def all : List Binary :=
  [arith .add, arith .sub, arith .mul, arith .div, arith .mod, arith .pow, eq, ne, order .lt,
    order .le, order .gt, order .ge, and, or]

/-- The operator with the given symbol. -/
def ofSymbol? (s : String) : Option Binary :=
  all.find? (·.symbol = s)

end Binary

def Unary.ofSymbol? (s : String) : Option Unary :=
  [neg, pos, not].find? (·.symbol = s)

end Reckon
