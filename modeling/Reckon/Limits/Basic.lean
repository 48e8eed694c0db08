/-!
How deep expressions may nest. A text is built up to `nesting` levels and a tree evaluated down to
`depth`. The builder's limit is capped by what the stack can carry: twelve frames a level, with a
hundred kept free.
-/

namespace Reckon

structure Limits where
  nesting : Int
  depth : Int
  deriving DecidableEq, Repr

namespace Limits

def defaultNesting : Int := 64
def defaultDepth : Int := 256

/-- A limit that is not positive. -/
inductive Fault
  | nesting (n : Int)
  | depth (n : Int)
  deriving DecidableEq, Repr

def Fault.message : Fault → String
  | nesting n => "max_nesting must be positive, got " ++ toString n
  | depth n => "max_depth must be positive, got " ++ toString n

/-- Limits must be positive. -/
def make (nesting depth : Int) : Except Fault Limits :=
  if nesting < 1 then .error (.nesting nesting)
  else if depth < 1 then .error (.depth depth)
  else .ok ⟨nesting, depth⟩

/-- The deepest nesting that a stack of so many frames carries. -/
def ceiling (stack : Int) : Int :=
  max 1 ((stack - 100).fdiv 12)

end Limits

end Reckon
