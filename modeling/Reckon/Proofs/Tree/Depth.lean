import Reckon.Proofs.Evaluate.Depth
import Reckon.Proofs.Tree.Reads

/-!
What is built within a limit of nesting lies within the same limit of depth: a rule that starts with
so many levels open reads a tree that may lie at that depth. Parentheses, and calls without
arguments, only take levels that the tree does not need.
-/

namespace Reckon

namespace Builder

variable {limit : Int}

lemma le_of_enter {d : Nat} {t : Token} {c c' : Cursor} (h : enter limit d t c = .ok () c') :
    (d + 1 : Nat) ≤ limit := by
  have := not_lt_of_enter h
  omega

mutual

lemma within_reads {r : Rule} {d : Nat} {c : Cursor} {res : Result Tree}
    (h : Reads limit r d c res) (hd : d ≤ limit) : Holds (fun t _ => t.Within limit d) res := by
  match res, h with
  | .error .., _ => trivial
  | .ok .., .sequence_one h hc => exact within_reads h hd
  | .ok .., .sequence_several h hc hs => exact ⟨hd, within_reads h hd, within_more hs hd⟩
  | .ok .., .chain h hs => exact within_climbs hs hd (within_reads h hd)
  | .ok .., .signed hk he h => exact ⟨hd, within_reads h (le_of_enter he)⟩
  | .ok .., .unsigned hk h => exact within_reads h hd
  | .ok .., .literal h => exact hd
  | .ok .., .name hk hn => exact hd
  | .ok .., .primary_call hk hn h => exact within_reads h hd
  | .ok .., .primary_group hk h => exact within_reads h hd
  | .ok .., .unit hc => exact hd
  | .ok .., .group hc he h hend =>
    have ht := within_reads h (le_of_enter he)
    exact ht.mono (Int.le_refl limit) (Nat.le_succ d)
  | .ok .., .call he h hend => exact ⟨hd, within_arguments h (le_of_enter he)⟩

lemma within_more {d : Nat} {c : Cursor} {res : Result (List Tree)} (h : More limit d c res)
    (hd : d ≤ limit) : Holds (fun ts _ => Tree.AllWithin limit ts d) res := by
  match res, h with
  | .error .., _ => trivial
  | .ok .., .none hc => trivial
  | .ok .., .some hc h hs => exact ⟨within_reads h hd, within_more hs hd⟩

lemma within_climbs {least d : Nat} {l : Tree} {c : Cursor} {res : Result Tree}
    (h : Climbs limit least d l c res) (hd : d ≤ limit) (hl : l.Within limit d) :
    Holds (fun t _ => t.Within limit d) res := by
  match res, h with
  | .error .., _ => trivial
  | .ok .., .stop h => exact hl
  | .ok .., .step hk hn h hs => exact within_climbs hs hd ⟨hd, hl, within_operand h hd⟩

lemma within_operand {op : Binary} {d : Nat} {c : Cursor} {res : Result Tree}
    (h : Operand limit op d c res) (hd : d ≤ limit) :
    Holds (fun t _ => t.Within limit (op.rightDepth d)) res := by
  match res, h with
  | .error .., _ => trivial
  | .ok .., .left ha h =>
    have hr := within_reads h hd
    rwa [← Binary.rightDepth_of_left ha d] at hr
  | .ok .., .right ha he h =>
    have hr := within_reads h (le_of_enter he)
    rwa [← Binary.rightDepth_of_right ha d] at hr

lemma within_arguments {d : Nat} {c : Cursor} {res : Result (List Tree)}
    (h : Arguments limit d c res) (hd : d ≤ limit) :
    Holds (fun ts _ => Tree.AllWithin limit ts d) res := by
  match res, h with
  | .error .., _ => trivial
  | .ok .., .none hc => trivial
  | .ok .., .some hc h hs => exact ⟨within_reads h hd, within_more hs hd⟩

end

end Builder

/-- What is built within a limit lies within it. -/
theorem Tree.within_of_build {source : Option String} {limit : Int} {ts : List Token} {t : Tree}
    (h : build source limit ts = .ok t) (hlimit : 0 ≤ limit) : t.Within limit 0 := by
  obtain ⟨c, hr, -⟩ := build_eq_ok.1 h
  exact Builder.within_reads hr hlimit

end Reckon
