import Reckon.Display.Screen
import Reckon.Tree.Basic
import Reckon.Value.Text

/-!
The outline of an operator tree: a branch for every node, labelled by what the node is, with
the branches of its children in order below it. `outline` is its definition; `grow` makes the
same outline on a plot of numbered branches without recursion, since a flat chain of operators
nests one node a term. `draw` writes a branch a line, behind guides that lead from each branch
to its children.
-/

namespace Reckon

namespace Display

/-- A branch of an outline. -/
inductive Branch
  | node (label : String) (branches : List Branch)

instance : Inhabited Branch := ⟨.node "" []⟩

end Display

namespace Tree

open Display (Branch)

/-- What the outline says of the root. -/
def caption : Tree → String
  | literal v => "literal " ++ v.kind.name ++ " " ++ v.text
  | name n => "variable " ++ n
  | call f ts => "call " ++ f ++ "/" ++ toString ts.length
  | unary op _ => "unary " ++ op.symbol
  | binary op _ _ => "binary " ++ op.symbol
  | tuple ts => "tuple/" ++ toString ts.length

mutual

def outline : Tree → Branch
  | literal v => .node (caption (literal v)) []
  | name n => .node (caption (name n)) []
  | unary op t => .node (caption (unary op t)) [t.outline]
  | binary op l r => .node (caption (binary op l r)) [l.outline, r.outline]
  | call f ts => .node (caption (call f ts)) (outlines ts)
  | tuple ts => .node (caption (tuple ts)) (outlines ts)

def outlines : List Tree → List Branch
  | [] => []
  | t :: ts => t.outline :: outlines ts

end

mutual

/-- How many nodes a tree has. -/
def size : Tree → Nat
  | literal _ | name _ => 1
  | unary _ t => t.size + 1
  | binary _ l r => l.size + r.size + 1
  | call _ ts | tuple ts => sizes ts + 1

def sizes : List Tree → Nat
  | [] => 0
  | t :: ts => t.size + sizes ts

end

theorem size_children (t : Tree) : t.size = sizes t.children + 1 := by
  cases t <;> simp [size, children, sizes]

end Tree

namespace Display

/-! ### Growing an outline on a plot -/

/-- A branch whose own branches are given by their numbers. -/
structure Shoot where
  label : String
  branches : List Nat

/-- Shoots, numbered in the order in which they were planted. -/
structure Plot where
  shoots : Array Shoot

/-- Plants a shoot as the last branch of shoot `i`; its number is the number of shoots before it. -/
def Plot.plant (p : Plot) (i : Nat) (label : String) : Plot :=
  let below := p.shoots.modify i fun s => { s with branches := s.branches ++ [p.shoots.size] }
  ⟨below.push ⟨label, []⟩⟩

/-- Plants the children of a node below shoot `i` and puts each, with its number, on top of the
nodes whose children are still to be planted. -/
def plantAll (i : Nat) : List Tree → Plot → List (Nat × Tree) → Plot × List (Nat × Tree)
  | [], p, pending => (p, pending)
  | t :: ts, p, pending => plantAll i ts (p.plant i t.caption) ((p.shoots.size, t) :: pending)

/-- How many nodes are still to be visited. -/
def remaining : List (Nat × Tree) → Nat
  | [] => 0
  | (_, t) :: pending => t.size + remaining pending

theorem remaining_plantAll (i : Nat) (ts : List Tree) (p : Plot) (pending : List (Nat × Tree)) :
    remaining (plantAll i ts p pending).2 = Tree.sizes ts + remaining pending := by
  induction ts generalizing p pending with
  | nil => simp [plantAll, Tree.sizes]
  | cons t ts ih =>
    rw [plantAll, ih]
    simp only [Tree.sizes, remaining]
    omega

/-- Plants the children of all pending nodes, the topmost node first. -/
def grow (p : Plot) : List (Nat × Tree) → Plot
  | [] => p
  | (i, t) :: pending =>
    grow (plantAll i t.children p pending).1 (plantAll i t.children p pending).2
termination_by pending => remaining pending
decreasing_by
  rw [remaining_plantAll]
  simp only [remaining, Tree.size_children t]
  omega

/-- The branch that shoot `i` has become, followed through at most `fuel` levels. -/
def Plot.branch (p : Plot) : (fuel : Nat) → Nat → Branch
  | 0, _ => .node "" []
  | fuel + 1, i =>
    match p.shoots[i]? with
    | some s => .node s.label (s.branches.map (p.branch fuel))
    | none => .node "" []

/-- The outline of a tree, grown from its root. -/
def grown (t : Tree) : Branch :=
  let p := grow ⟨#[⟨t.caption, []⟩]⟩ [(0, t)]
  p.branch p.shoots.size 0

/-! ### Drawing -/

/-- The guides before the label of a branch, and before what belongs to it below. -/
def guides (last : Bool) : List Char × List Char :=
  if last then ("└── ".toList, "    ".toList) else ("├── ".toList, "│   ".toList)

/-- Puts the lines of a label behind its guide: the first line and the others. -/
def behind (first others : List Char) : List (List Char) → List (List Char)
  | [] => []
  | l :: ls => (first ++ l) :: ls.map (others ++ ·)

mutual

/-- The lines of a branch: the label behind `first`, all that follows behind `others`. -/
def draw (first others : List Char) : Branch → List (List Char)
  | .node label branches => behind first others (shown "" label) ++ drawAll others branches

/-- The lines of the branches of a node. -/
def drawAll (indent : List Char) : List Branch → List (List Char)
  | [] => []
  | [b] => draw (indent ++ (guides true).1) (indent ++ (guides true).2) b
  | b :: c :: bs =>
    draw (indent ++ (guides false).1) (indent ++ (guides false).2) b ++ drawAll indent (c :: bs)

end

end Display

end Reckon
