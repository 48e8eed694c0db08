import Reckon.Proofs.Tree.Reads

/-!
What the builder has not seen. It looks no further than the token that it stops at, be it behind a
tree or in a refusal: whatever follows that token might as well be something else.
-/

namespace Reckon

/-- The cursor with the tokens `z` in place of the last `n`, and with another end. -/
def Cursor.swap (n : Nat) (z : List Token) (s : Nat) (c : Cursor) : Cursor :=
  ⟨c.passed, c.rest.take (c.rest.length - n) ++ z, s, c.crest⟩

namespace Builder

/-- The result at the cursor with other tokens. -/
def swapped {α : Type} (n : Nat) (z : List Token) (s : Nat) : Result α → Result α
  | .ok a c => .ok a (c.swap n z s)
  | .error r c => .error r (c.swap n z s)

/-! ### Small steps -/

section

variable {α : Type} {c c' : Cursor} {n : Nat} {z : List Token} {s : Nat}

lemma swap_cons {passed ts crest : List _} {t : Token} (h : n < (t :: ts).length) (e : Nat) :
    Cursor.swap n z s ⟨passed, t :: ts, e, crest⟩ =
      ⟨passed, t :: (ts.take (ts.length - n) ++ z), s, crest⟩ := by
  rw [List.length_cons] at h
  have hlength : (t :: ts).length - n = ts.length - n + 1 := by
    rw [List.length_cons]
    omega
  rw [Cursor.swap, hlength, List.take_succ_cons]
  rfl

lemma current_swap (h : n < c.rest.length) : (c.swap n z s).current = c.current := by
  obtain ⟨passed, _ | ⟨t, ts⟩, e, crest⟩ := c
  · cases h
  · rw [swap_cons h]
    rfl

lemma advance_swap (h : n < c.rest.length) : (c.swap n z s).advance = c.advance.swap n z s := by
  obtain ⟨passed, _ | ⟨t, ts⟩, e, crest⟩ := c
  · cases h
  · rw [swap_cons h]
    rfl

lemma misplaced_swap (h : n < c.rest.length) : (c.swap n z s).misplaced = c.misplaced := by
  rw [Cursor.misplaced, Cursor.misplaced, current_swap h]
  rfl

lemma opened_swap (c : Cursor) (d : Nat) (t : Token) :
    (c.swap n z s).opened d t = (c.opened d t).swap n z s := by
  have hcrest : (c.swap n z s).crest = c.crest := rfl
  rw [Cursor.opened, Cursor.opened, hcrest]
  split <;> rfl

/-- What is ahead of the end of an action is ahead of its start. -/
lemma Moves.ahead {res : Result α} (h : Moves c res) (hn : n < (cursor res).rest.length) :
    n < c.rest.length := by
  obtain ⟨w, hw⟩ := h
  rw [hw.rest, List.length_append]
  omega

lemma swap_enter {limit : Int} {d : Nat} {res : Result Unit} (hc : n < c.rest.length)
    (he : enter limit d c.current c.advance = res) :
    enter limit d (c.swap n z s).current (c.swap n z s).advance = swapped n z s res := by
  rw [current_swap hc, advance_swap hc, enter_eq]
  rw [enter_eq] at he
  subst he
  split
  · rfl
  · rw [opened_swap]
    rfl

lemma swap_enter_next {limit : Int} {d : Nat} {res : Result Unit} (hc : n < c.rest.length)
    (hc' : n < c.advance.rest.length)
    (he : enter limit d c.advance.current c.advance.advance = res) :
    enter limit d (c.swap n z s).advance.current (c.swap n z s).advance.advance =
      swapped n z s res := by
  rw [advance_swap hc]
  exact swap_enter hc' he

lemma swap_close {f : ParseFault} {t : Token} {res : Result Unit} (hc : n < c.rest.length)
    (h : close f t c = res) : close f t (c.swap n z s) = swapped n z s res := by
  subst h
  cases h : close f t c with
  | ok a c' =>
    obtain ⟨hk, rfl⟩ := close_eq_ok.1 h
    rw [close_of_closing (by rw [current_swap hc, hk]), advance_swap hc]
    rfl
  | error r c' =>
    refine close_eq_error.2 ?_
    obtain ⟨rfl, hr⟩ := close_eq_error.1 h
    rw [current_swap hc, misplaced_swap hc]
    exact ⟨rfl, hr⟩

end

/-! ### Rules -/

/-- A call passes its name at once. -/
lemma Reads.moves_behind {limit : Int} {d : Nat} {c : Cursor} {res : Result Tree}
    (h : Reads limit .call d c res) : Moves c.advance res := by
  cases h with
  | call he h hend =>
    exact (advance_moves.trans (enter_moves he)).trans
      (h.moves.trans (close_advances hend).moves).ok
  | call_deep he => exact (advance_moves.trans (enter_moves he)).refused.moves
  | call_refused he h => exact (advance_moves.trans (enter_moves he)).trans h.moves.refused.moves
  | call_open he h hend =>
    exact (advance_moves.trans (enter_moves he)).trans
      (h.moves.trans (close_advances hend).moves.refused.moves)

section

variable {limit : Int} {n : Nat} {z : List Token} {s : Nat}

mutual

-- The cursor only moves on, so that the part of the tokens that is swapped is ahead all the time.
theorem swap_reads {r : Rule} {d : Nat} {c : Cursor} {res : Result Tree} (h : Reads limit r d c res)
    (hn : n < (cursor res).rest.length) : Reads limit r d (c.swap n z s) (swapped n z s res) := by
  have hc := h.advances.moves.ahead hn
  match h with
  | .sequence_one h hk => exact .sequence_one (swap_reads h hn) ((current_swap hn).symm ▸ hk)
  | .sequence_several h hk hs =>
    have hn' := hs.moves.ahead hn
    exact .sequence_several (swap_reads h hn') (by rwa [current_swap hn']) (swap_more hs hn)
  | .sequence_first_refused h => exact .sequence_first_refused (swap_reads h hn)
  | .sequence_later_refused h hk hs =>
    have hn' := hs.moves.ahead hn
    exact .sequence_later_refused (swap_reads h hn') (by rwa [current_swap hn']) (swap_more hs hn)
  | .chain h hs => exact .chain (swap_reads h (hs.moves.ahead hn)) (swap_climbs hs hn)
  | .chain_refused h => exact .chain_refused (swap_reads h hn)
  | .signed hk he h => exact .signed (by rwa [current_swap hc]) (swap_enter hc he) (swap_reads h hn)
  | .signed_deep hk he => exact .signed_deep (by rwa [current_swap hc]) (swap_enter hc he)
  | .signed_refused hk he h =>
    exact .signed_refused (by rwa [current_swap hc]) (swap_enter hc he) (swap_reads h hn)
  | .unsigned hk h => exact .unsigned (by rwa [current_swap hc]) (swap_reads h hn)
  | .literal hl =>
    rw [swapped, ← advance_swap hc]
    exact .literal (by rwa [current_swap hc])
  | .literal_fault hl =>
    rw [swapped, ← current_swap hc]
    exact .literal_fault (by rwa [current_swap hc])
  | .name hk hnext =>
    have hc' : n < c.advance.rest.length := hn
    rw [← Cursor.current_advance] at hnext
    have hnext' : (c.swap n z s).next.kind ≠ .opening := by
      rwa [← Cursor.current_advance, advance_swap hc, current_swap hc']
    rw [swapped, ← advance_swap hc, ← current_swap hc]
    exact .name (by rwa [current_swap hc]) hnext'
  | .primary_call hk hnext h =>
    have hc' := h.moves_behind.ahead hn
    rw [← Cursor.current_advance] at hnext
    have hnext' : (c.swap n z s).next.kind = .opening := by
      rwa [← Cursor.current_advance, advance_swap hc, current_swap hc']
    exact .primary_call (by rwa [current_swap hc]) hnext' (swap_reads h hn)
  | .primary_group hk h => exact .primary_group (by rwa [current_swap hc]) (swap_reads h hn)
  | .misplaced hl ho hname =>
    rw [swapped, ← current_swap hc, ← misplaced_swap hc]
    exact .misplaced (by rwa [current_swap hc]) (by rwa [current_swap hc])
      (by rwa [current_swap hc])
  | .unit hk =>
    have hc' := advance_moves.ahead hn
    rw [swapped, ← advance_swap hc', ← advance_swap hc]
    exact .unit (by rwa [advance_swap hc, current_swap hc'])
  | .group hk he h hend =>
    have hend' := (close_advances hend).moves.ahead hn
    have hc' := (enter_moves he).ahead (h.advances.moves.ahead hend')
    refine .group ?_ (swap_enter hc he) (swap_reads h hend') ?_
    · rwa [advance_swap hc, current_swap hc']
    · rw [current_swap hc]
      exact swap_close hend' hend
  | .group_deep hk he =>
    have hc' := (enter_moves he).ahead hn
    exact .group_deep (by rwa [advance_swap hc, current_swap hc']) (swap_enter hc he)
  | .group_refused hk he h =>
    have hc' := (enter_moves he).ahead (h.advances.moves.ahead hn)
    exact .group_refused (by rwa [advance_swap hc, current_swap hc']) (swap_enter hc he)
      (swap_reads h hn)
  | .group_open hk he h hend =>
    have hend' := (close_advances hend).moves.ahead hn
    have hc' := (enter_moves he).ahead (h.advances.moves.ahead hend')
    refine .group_open ?_ (swap_enter hc he) (swap_reads h hend') ?_
    · rwa [advance_swap hc, current_swap hc']
    · rw [current_swap hc]
      exact swap_close hend' hend
  | .call he h hend =>
    have hend' := (close_advances hend).moves.ahead hn
    have hc' := (advance_moves.trans (enter_moves he)).ahead (h.moves.ahead hend')
    rw [swapped, ← current_swap hc]
    refine .call (swap_enter_next hc hc' he) (swap_arguments h hend') ?_
    rw [advance_swap hc, current_swap hc', current_swap hc]
    exact swap_close hend' hend
  | .call_deep he =>
    have hc' := (advance_moves.trans (enter_moves he)).ahead hn
    exact .call_deep (swap_enter_next hc hc' he)
  | .call_refused he h =>
    have hc' := (advance_moves.trans (enter_moves he)).ahead (h.moves.ahead hn)
    exact .call_refused (swap_enter_next hc hc' he) (swap_arguments h hn)
  | .call_open he h hend =>
    have hend' := (close_advances hend).moves.ahead hn
    have hc' := (advance_moves.trans (enter_moves he)).ahead (h.moves.ahead hend')
    refine .call_open (swap_enter_next hc hc' he) (swap_arguments h hend') ?_
    rw [advance_swap hc, current_swap hc', current_swap hc]
    exact swap_close hend' hend

lemma swap_more {d : Nat} {c : Cursor} {res : Result (List Tree)} (h : More limit d c res)
    (hn : n < (cursor res).rest.length) : More limit d (c.swap n z s) (swapped n z s res) := by
  have hc := h.moves.ahead hn
  match h with
  | .none hk => exact .none (by rwa [current_swap hc])
  | .some hk h hs =>
    exact .some (by rwa [current_swap hc]) (advance_swap hc ▸ swap_reads h (hs.moves.ahead hn))
      (swap_more hs hn)
  | .first_refused hk h =>
    exact .first_refused (by rwa [current_swap hc]) (advance_swap hc ▸ swap_reads h hn)
  | .later_refused hk h hs =>
    have h' := swap_reads h (hs.moves.ahead hn)
    rw [← advance_swap hc] at h'
    exact .later_refused (by rwa [current_swap hc]) h' (swap_more hs hn)

lemma swap_climbs {least d : Nat} {l : Tree} {c : Cursor} {res : Result Tree}
    (h : Climbs limit least d l c res) (hn : n < (cursor res).rest.length) :
    Climbs limit least d l (c.swap n z s) (swapped n z s res) := by
  have hc := h.moves.ahead hn
  match h with
  | .stop hk => exact .stop (by rwa [current_swap hc])
  | .step hk hl h hs =>
    exact .step (by rwa [current_swap hc]) hl (swap_operand h (hs.moves.ahead hn))
      (swap_climbs hs hn)
  | .refused hk hl h => exact .refused (by rwa [current_swap hc]) hl (swap_operand h hn)

lemma swap_operand {op : Binary} {d : Nat} {c : Cursor} {res : Result Tree}
    (h : Operand limit op d c res) (hn : n < (cursor res).rest.length) :
    Operand limit op d (c.swap n z s) (swapped n z s res) := by
  have hc := h.advances.moves.ahead hn
  match h with
  | .left ha h => exact .left ha (advance_swap hc ▸ swap_reads h hn)
  | .right ha he h => exact .right ha (swap_enter hc he) (swap_reads h hn)
  | .deep ha he => exact .deep ha (swap_enter hc he)

lemma swap_arguments {d : Nat} {c : Cursor} {res : Result (List Tree)} (h : Arguments limit d c res)
    (hn : n < (cursor res).rest.length) : Arguments limit d (c.swap n z s) (swapped n z s res) := by
  have hc := h.moves.ahead hn
  match h with
  | .none hk => exact .none (by rwa [current_swap hc])
  | .some hk h hs =>
    exact .some (by rwa [current_swap hc]) (swap_reads h (hs.moves.ahead hn)) (swap_more hs hn)
  | .first_refused hk h => exact .first_refused (by rwa [current_swap hc]) (swap_reads h hn)
  | .later_refused hk h hs =>
    exact .later_refused (by rwa [current_swap hc]) (swap_reads h (hs.moves.ahead hn))
      (swap_more hs hn)

end

end

end Builder

end Reckon
