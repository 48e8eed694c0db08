import Reckon.Proofs.Decimal.Order
import Reckon.Proofs.Tree.Spelled

/-!
Printing and reading again. The printed form of the tree of a source is read as the tree, if its
nesting is within the limit in effect, and refused for its nesting if not. Only an infinite float
does not come back: it is printed as a word and read as a name.
-/

namespace Reckon

namespace Tree

open Token

/-! ### Reading what is printed -/

lemma endless_value (v : Value) : Endless v.marks := by
  cases v with
  | boolean b => cases b <;> exact .cons nofun .nil
  | tuple items => exact .nil
  | empty => exact .cons nofun (.cons nofun .nil)
  | int n | float x | string s => exact .cons nofun .nil

mutual

lemma endless_marks (t : Tree) : Endless t.marks := by
  match t with
  | literal v => exact endless_value v
  | name n => exact .cons nofun .nil
  | unary op t => exact .cons nofun (endless_marks t)
  | binary op l r =>
    exact .cons nofun ((endless_marks l).append
      (.cons nofun ((endless_marks r).append (.cons nofun .nil))))
  | call f [] => exact .cons nofun (.cons nofun (.cons nofun .nil))
  | call f (t :: ts) =>
    exact .cons nofun
      (.cons nofun (((endless_marks t).append (endless_more ts)).append (.cons nofun .nil)))
  | tuple [] => exact .cons nofun (.cons nofun .nil)
  | tuple (t :: ts) =>
    exact .cons nofun (((endless_marks t).append (endless_more ts)).append (.cons nofun .nil))

lemma endless_more (ts : List Tree) : Endless (moreMarks ts) := by
  match ts with
  | [] => exact .nil
  | t :: ts => exact .cons nofun ((endless_marks t).append (endless_more ts))

end

section

variable {t : Tree} {limit : Int}

/-- The printed form of a finite tree is read as the tree wherever it stands. -/
lemma spells_tree (ht : t.Written) (hf : t.Finite) : Spells t.text t.levels t :=
  ⟨t.marks, endless_marks t, fun _ hr => scans_tree t ht hf hr, fun _ => Builder.reads_tree t ht hf⟩

/-- The builder finds the tokens of a printed tree before it, and nothing after them. -/
lemma shown_text (ht : t.Written) (hf : t.Finite) :
    ∃ ts, scan t.text = .ok ts ∧ Builder.Shown (.ofTokens ts) t.marks [] :=
  shown_of_scans (fun _ hr => scans_tree t ht hf hr) (endless_marks t)

lemma ofSource_beyond (ht : t.Written) (hf : t.Finite) (h0 : 0 ≤ limit) (hl : limit < t.levels) :
    ∃ site, ofSource limit t.text = .error (.nesting limit site) := by
  obtain ⟨ts, hscan, hs⟩ := shown_text ht hf
  obtain ⟨r, c, hr, hcause⟩ := Builder.refuses_tree t ht hf hs nofun (d := 0) h0 (by omega)
  have hne : (Cursor.ofTokens ts).rest ≠ [] := by
    intro hnil
    have hk := (Builder.firstKind_marks ht [] []).2
    rw [List.append_nil, ← hs.kind, Cursor.kind_current, hnil] at hk
    exact hk rfl
  rw [ofSource_of_scan hscan, build_of_refused (.sequence_first_refused (.chain_refused hr)) hne,
    Refusal.error, hcause]
  exact ⟨_, rfl⟩

end

/-! ### Infinite floats -/

mutual

/-- The tree that is printed as `t` is: infinite floats are printed as words. -/
def printed : Tree → Tree
  | literal (.float x) => if x.isInf then name "inf" else literal (.float x)
  | literal v => literal v
  | name n => name n
  | unary op t => unary op t.printed
  | binary op l r => binary op l.printed r.printed
  | call f ts => call f (allPrinted ts)
  | tuple ts => tuple (allPrinted ts)

def allPrinted : List Tree → List Tree
  | [] => []
  | t :: ts => t.printed :: allPrinted ts

end

lemma isName_inf : IsName "inf" :=
  ⟨⟨'i', ['n', 'f'], rfl, .inl rfl, List.all_eq_true.1 rfl⟩, by decide, by decide⟩

lemma length_printed (ts : List Tree) : (allPrinted ts).length = ts.length := by
  induction ts with
  | nil => rfl
  | cons t ts ih => rw [allPrinted, List.length_cons, List.length_cons, ih]

lemma printed_float (x : Float) :
    x.isInf = true ∧ (literal (.float x)).printed = name "inf" ∨
      x.isInf = false ∧ (literal (.float x)).printed = literal (.float x) := by
  cases hx : x.isInf with
  | true => exact .inl ⟨rfl, by simp [printed, hx]⟩
  | false => exact .inr ⟨rfl, by simp [printed, hx]⟩

mutual

lemma written_printed (t : Tree) (h : t.Written) : t.printed.Written := by
  match t with
  | literal (.float x) =>
    rcases printed_float x with ⟨-, hx⟩ | ⟨-, hx⟩ <;> rw [hx]
    · exact isName_inf
    · exact h
  | literal (.int n) | literal (.string s) | literal (.boolean b) | literal .empty
  | literal (.tuple _) | name n => exact h
  | unary op t => exact written_printed t h
  | binary op l r => exact ⟨written_printed l h.1, written_printed r h.2⟩
  | call f ts => exact ⟨h.1, allWritten_printed ts h.2⟩
  | tuple ts => exact ⟨length_printed ts ▸ h.1, allWritten_printed ts h.2⟩

lemma allWritten_printed (ts : List Tree) (h : AllWritten ts) : AllWritten (allPrinted ts) := by
  match ts with
  | [] => trivial
  | t :: ts => exact ⟨written_printed t h.1, allWritten_printed ts h.2⟩

end

mutual

lemma finite_printed (t : Tree) : t.printed.Finite := by
  match t with
  | literal (.float x) =>
    rcases printed_float x with ⟨-, hx⟩ | ⟨hi, hx⟩ <;> rw [hx]
    · trivial
    · exact hi
  | literal (.int n) | literal (.string s) | literal (.boolean b) | literal .empty
  | literal (.tuple _) | name n => trivial
  | unary op t => exact finite_printed t
  | binary op l r => exact ⟨finite_printed l, finite_printed r⟩
  | call f ts => exact allFinite_printed ts
  | tuple ts => exact allFinite_printed ts

lemma allFinite_printed (ts : List Tree) : AllFinite (allPrinted ts) := by
  match ts with
  | [] => trivial
  | t :: ts => exact ⟨finite_printed t, allFinite_printed ts⟩

end

mutual

lemma text_printed (t : Tree) (h : t.Written) : t.printed.text = t.text := by
  match t with
  | literal (.float x) =>
    rcases printed_float x with ⟨hi, hx⟩ | ⟨-, hx⟩ <;> rw [hx]
    exact (Decimal.write_infinite h hi).symm
  | literal (.int n) | literal (.string s) | literal (.boolean b) | literal .empty
  | literal (.tuple _) | name n => rfl
  | unary op t =>
    have ht := text_printed t h
    rw [printed, text, text, ht]
  | binary op l r => rw [printed, text, text, text_printed l h.1, text_printed r h.2]
  | call f ts => rw [printed, text, text, texts_printed ts h.2]
  | tuple ts => rw [printed, text, text, texts_printed ts h.2]

lemma texts_printed (ts : List Tree) (h : AllWritten ts) : texts (allPrinted ts) = texts ts := by
  match ts with
  | [] => rfl
  | t :: ts => rw [allPrinted, texts, texts, text_printed t h.1, texts_printed ts h.2]

end

mutual

/-- A tree with an infinite float is not identical to what is printed for it. -/
lemma finite_of_identical (t : Tree) (h : t.printed.identical t) : t.Finite := by
  match t with
  | literal (.float x) =>
    rcases printed_float x with ⟨-, hx⟩ | ⟨hi, -⟩
    · rw [hx] at h
      cases h
    · exact hi
  | literal (.int n) | literal (.string s) | literal (.boolean b) | literal .empty
  | literal (.tuple _) | name n => trivial
  | unary op t =>
    rw [printed, identical, Bool.and_eq_true] at h
    exact finite_of_identical t h.2
  | binary op l r =>
    rw [printed, identical, Bool.and_eq_true, Bool.and_eq_true] at h
    exact ⟨finite_of_identical l h.1.2, finite_of_identical r h.2⟩
  | call f ts =>
    rw [printed, identical, Bool.and_eq_true] at h
    exact allFinite_of_identical ts h.2
  | tuple ts =>
    rw [printed, identical] at h
    exact allFinite_of_identical ts h

lemma allFinite_of_identical (ts : List Tree) (h : allIdentical (allPrinted ts) ts) :
    AllFinite ts := by
  match ts with
  | [] => trivial
  | t :: ts =>
    rw [allPrinted, allIdentical, Bool.and_eq_true] at h
    exact ⟨finite_of_identical t h.1, allFinite_of_identical ts h.2⟩

end

mutual

lemma identical_self (t : Tree) (h : t.Written) : t.identical t := by
  match t with
  | literal (.float x) => exact Real.beq_self (Rounding.Signed.isNaN h)
  | literal (.int n) | literal (.string s) | literal (.boolean b) =>
    rw [identical, Value.identical]
    exact beq_self_eq_true _
  | literal .empty => rfl
  | literal (.tuple _) => exact h.elim
  | name n => simp [identical]
  | unary op t =>
    have ht := identical_self t h
    rw [identical, ht]
    simp
  | binary op l r =>
    rw [identical, identical_self l h.1, identical_self r h.2]
    simp
  | call f ts =>
    rw [identical, allIdentical_self ts h.2]
    simp
  | tuple ts =>
    rw [identical]
    exact allIdentical_self ts h.2

lemma allIdentical_self (ts : List Tree) (h : AllWritten ts) : allIdentical ts ts := by
  match ts with
  | [] => rfl
  | t :: ts =>
    rw [allIdentical, identical_self t h.1, allIdentical_self ts h.2]
    rfl

end

/-! ### Printing and reading again -/

/-- Under whatever limit a printed tree is read, it is read as the tree that is printed as it is. -/
lemma eq_printed {limit : Int} {t u : Tree} (ht : t.Written) (hu : ofSource limit t.text = .ok u) :
    u = t.printed := by
  have hp := written_printed t ht
  have hf := finite_printed t
  rw [← text_printed t ht] at hu
  obtain ⟨ts, hscan, -⟩ := shown_text hp hf
  have hpr := (spells_tree hp hf).ofSource (Int.le_refl _)
  rw [ofSource_of_scan hscan] at hu hpr
  exact (Grammar.sequence_of_build hu).unique (Grammar.sequence_of_build hpr)

/-- **The tree of a source comes back from its printed form.** If no float in it is infinite, its
printed form is read as the tree itself under every limit that its levels are within, and is refused
for its nesting under every other limit. If a float in it is infinite, its printed form is never
read as the tree. -/
theorem text_reads {limit : Int} {source : String} {t : Tree} (h : ofSource limit source = .ok t) :
    (t.Finite → ∀ n : Nat,
      (t.levels ≤ n → ofSource n t.text = .ok t ∧ t.identical t) ∧
      (n < t.levels → ∃ site, ofSource n t.text = .error (.nesting n site))) ∧
    (¬ t.Finite → ∀ (n : Int) (u : Tree), ofSource n t.text = .ok u → ¬ u.identical t) := by
  have ht := written_of_source h
  constructor
  · intro hf n
    constructor
    · intro hn
      exact ⟨(spells_tree ht hf).ofSource (by omega), identical_self t ht⟩
    · intro hn
      exact ofSource_beyond ht hf (by omega) (by omega)
  · intro hf n u hu hid
    rw [eq_printed ht hu] at hid
    exact hf (finite_of_identical t hid)

/-- The source `a ^ 2`, whose printed form takes two levels, and a float too large to come back. -/
theorem text_reads_power :
    (ofSource 2 "(a ^ 2)" = .ok (binary (.arith .pow) (name "a") (literal (.int 2))) ∧
      ∃ site, ofSource 1 "(a ^ 2)" = .error (.nesting 1 site)) ∧
    ∃ x, ofSource 0 "1e999" = .ok (literal (.float x)) ∧
      ∀ (n : Int) (u : Tree), ofSource n "inf" = .ok u → ¬ u.identical (literal (.float x)) := by
  constructor
  · have hscan : Token.scan "a ^ 2" = .ok [⟨.name, "a", 0⟩, ⟨.binary (.arith .pow), "^", 2⟩,
        ⟨.int, "2", 4⟩, ⟨.stop, "", 5⟩] := by
      rw [Token.scan_eq]
      decide +kernel
    have hsource : ofSource 1 "a ^ 2" = .ok (binary (.arith .pow) (name "a") (literal (.int 2))) :=
      ofSource_of_scan hscan
    have hall := (text_reads hsource).1 ⟨trivial, trivial⟩
    exact ⟨((hall 2).1 (by decide)).1, (hall 1).2 (by decide)⟩
  · have hscan : Token.scan "1e999" = .ok [⟨.float, "1e999", 0⟩, ⟨.stop, "", 5⟩] := by
      rw [Token.scan_eq]
      decide +kernel
    obtain ⟨x, hsource, hinf⟩ : ∃ x, ofSource 0 "1e999" = .ok (literal (.float x)) ∧
        x.isInf = true := by
      rw [ofSource_of_scan hscan]
      exact ⟨_, rfl, by decide +kernel⟩
    have htext : (literal (.float x)).text = "inf" :=
      Decimal.write_infinite (written_of_source hsource) hinf
    have hendless : ¬ (literal (.float x)).Finite := by
      intro h
      have h : x.isInf = false := h
      rw [h] at hinf
      cases hinf
    exact ⟨x, hsource, htext ▸ (text_reads hsource).2 hendless⟩

end Tree

end Reckon
