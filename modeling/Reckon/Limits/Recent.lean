/-!
The answers to the most recent questions, the latest first. Asking a question again makes it the
latest; beyond the capacity the answer that was asked for longest ago is forgotten.
-/

namespace Reckon

structure Recent (α β : Type) where
  entries : List (α × β)

namespace Recent

variable {α β : Type} [DecidableEq α]

def empty : Recent α β := ⟨[]⟩

def find? (r : Recent α β) (a : α) : Option β :=
  (r.entries.find? (·.1 = a)).map (·.2)

/-- Makes `b` the answer to `a`, and `a` the latest question. -/
def use (r : Recent α β) (capacity : Nat) (a : α) (b : β) : Recent α β :=
  ⟨((a, b) :: r.entries.filter (·.1 ≠ a)).take capacity⟩

end Recent

end Reckon
