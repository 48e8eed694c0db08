import Reckon.Token.Lexeme

/-!
The tokens of a text, lexeme by lexeme, with blanks between them passed over. The last token has the
kind `stop` and stands at the end of the text.
-/

namespace Reckon.Token

/-- The characters that may stand between tokens. -/
def gap (c : Char) : Bool :=
  c = ' ' || c = '\t' || c = '\n' || c = '\r'

/-- The tokens of the characters from offset `pos` on; `after` holds if the token before them
ends an operand. -/
def read (after : Bool) (pos : Nat) : List Char → Except (TokenFault × Nat) (List Token)
  | [] => .ok [⟨.stop, "", pos⟩]
  | c :: cs =>
    if gap c then read after (pos + 1) cs
    else
      match lexeme after c cs with
      | .error (f, k) => .error (f, pos + k)
      | .ok l =>
        (read l.kind.endsOperand (pos + 1 + l.extra) (cs.drop l.extra)).map
          (⟨l.kind, l.text, pos⟩ :: ·)
termination_by cs => cs.length
decreasing_by
  · simp
  · simp only [List.length_drop, List.length_cons]; omega

def scan (source : String) : Except Error (List Token) :=
  match read false 0 source.toList with
  | .ok ts => .ok ts
  | .error (f, pos) => .error (.token f ⟨source, pos⟩)

/-! ### Scans in rounds -/

/-- The same tokens, in a bounded number of rounds. This form can be computed in a proof. -/
def readWithin : (rounds : Nat) → Bool → Nat → List Char → Except (TokenFault × Nat) (List Token)
  | 0, _, _, _ => .ok []
  | _ + 1, _, pos, [] => .ok [⟨.stop, "", pos⟩]
  | rounds + 1, after, pos, c :: cs =>
    if gap c then readWithin rounds after (pos + 1) cs
    else
      match lexeme after c cs with
      | .error (f, k) => .error (f, pos + k)
      | .ok l =>
        (readWithin rounds l.kind.endsOperand (pos + 1 + l.extra) (cs.drop l.extra)).map
          (⟨l.kind, l.text, pos⟩ :: ·)

/-- One round for each character and one for the end are enough. -/
theorem read_eq_readWithin {rounds : Nat} {after : Bool} {pos : Nat} {cs : List Char}
    (h : cs.length < rounds) : read after pos cs = readWithin rounds after pos cs := by
  induction rounds generalizing after pos cs with
  | zero => cases h
  | succ rounds ih =>
    cases cs with
    | nil => rw [read, readWithin]
    | cons c cs =>
      rw [List.length_cons] at h
      rw [read, readWithin, ih (by omega)]
      cases lexeme after c cs with
      | error e => rfl
      | ok l =>
        have hrest : (cs.drop l.extra).length < rounds := by
          rw [List.length_drop]
          omega
        simp only [ih hrest]

theorem scan_eq (source : String) :
    scan source =
      match readWithin (source.toList.length + 1) false 0 source.toList with
      | .ok ts => .ok ts
      | .error (f, pos) => .error (.token f ⟨source, pos⟩) := by
  rw [scan, read_eq_readWithin (Nat.lt_succ_self _)]

end Reckon.Token
