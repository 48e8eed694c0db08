import Reckon.Proofs.Text.Places
import Reckon.Proofs.Token.Tiling
import Reckon.Proofs.Tree.Moved
import Reckon.Proofs.Tree.Sources

/-!
Where errors lie. A scan refuses a character of the text, and the builder a token, which stands in
the text or at its end. So every error of a source has a place in it, with a line and a column,
and its caret stands under that place; only the error that an integer has more digits than are
read has none.
-/

namespace Reckon

/-- The error lies in the source, and at a character if it is one of its tokens. -/
def Error.Within (source : String) : Error → Prop
  | .token _ p => p.source = source ∧ p.pos < source.length
  | .parse _ s | .nesting _ s => s.source = some source ∧ s.pos ≤ source.length
  | _ => False

/-- The error is shown at the place, which lies in the source. -/
structure Error.Placed (source : String) (e : Error) (p : Place) : Prop where
  place : e.place? = some p
  source_eq : p.source = source
  pos_le : p.pos ≤ source.length
  pos_lt : e.label = "ExpressionTokenError" → p.pos < source.length
  breaks : (source.toList.take p.pos).count '\n' = p.line - 1
  coordinate : ∀ line column, Coordinate source p.pos line column ↔
    line = p.line ∧ column = p.column
  row : ∃ text, (Text.lines source)[p.line - 1]? = some text ∧ p.top = p.margin ++ text
  shown : e.text = String.ofList (p.top ++ '\n' :: p.bottom) ++ "\n" ++ e.message
  points : Points source p.pos p.top p.bottom

lemma Error.Within.placed {source : String} {e : Error} (h : e.Within source) :
    ∃ p, e.Placed source p := by
  obtain ⟨p, hplace, rfl, hle, hlt⟩ : ∃ p, e.place? = some p ∧ p.source = source ∧
      p.pos ≤ source.length ∧ (e.label = "ExpressionTokenError" → p.pos < source.length) := by
    cases e with
    | token fault p => exact ⟨p, rfl, h.1, h.2.le, fun _ => h.2⟩
    | parse fault s =>
      obtain ⟨_, pos⟩ := s
      obtain ⟨rfl, hle⟩ := h
      exact ⟨⟨source, pos⟩, rfl, rfl, hle, fun hl => by simp [Error.label] at hl⟩
    | nesting limit s =>
      obtain ⟨_, pos⟩ := s
      obtain ⟨rfl, hle⟩ := h
      exact ⟨⟨source, pos⟩, rfl, rfl, hle, fun hl => by simp [Error.label] at hl⟩
    | _ => exact h.elim
  refine ⟨p, hplace, rfl, hle, hlt, rfl, fun line column => ⟨(Place.coordinate hle).unique, ?_⟩,
    ⟨p.lineText, (Place.lineText_eq hle).1, rfl⟩, ?_, Place.points hle⟩
  · rintro ⟨rfl, rfl⟩
    exact Place.coordinate hle
  · rw [Error.text, hplace]
    rfl

namespace Token

section

variable {after : Bool} {pos n k : Nat} {c q : Char} {cs : List Char} {f : TokenFault}
  {source : String}

end

end Token

/-! ### Trees -/

namespace Tree

variable {limit : Int} {source : String} {ts : List Token} {e : Error}

end Tree

end Reckon
