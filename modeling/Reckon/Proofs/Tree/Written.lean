import Reckon.Proofs.Token.Sound
import Reckon.Proofs.Tree.Grammar
import Reckon.Tree.Source

/-!
The trees that sources have. Their literals are what tokens can stand for, so no number is negative
and no tuple is a literal; their names are words; and their tuples have at least two items.
-/

namespace Reckon

open Rounding

/-- The value of a token, or the unit value. -/
def Value.Written : Value → Prop
  | .int n => 0 ≤ n ∧ n ≤ greatest
  | .float x => Signed .positive x.toModel.unpack
  | .tuple _ => False
  | .boolean _ | .string _ | .empty => True

/-- The value is no infinite float. -/
def Value.Finite : Value → Prop
  | .float x => x.isInf = false
  | _ => True

namespace Tree

mutual

/-- No float among the literals is infinite. -/
def Finite : Tree → Prop
  | literal v => v.Finite
  | name _ => True
  | unary _ t => t.Finite
  | binary _ l r => l.Finite ∧ r.Finite
  | call _ ts | tuple ts => AllFinite ts

def AllFinite : List Tree → Prop
  | [] => True
  | t :: ts => t.Finite ∧ AllFinite ts

end

mutual

/-- The tree can be that of a source. -/
def Written : Tree → Prop
  | literal v => v.Written
  | name n => Token.IsName n
  | unary _ t => t.Written
  | binary _ l r => l.Written ∧ r.Written
  | call f ts => Token.IsName f ∧ AllWritten ts
  | tuple ts => 2 ≤ ts.length ∧ AllWritten ts

def AllWritten : List Tree → Prop
  | [] => True
  | t :: ts => t.Written ∧ AllWritten ts

end

end Tree

namespace Grammar

/-- Every token has a text that suits its kind. -/
def AllSound (w : List Token) : Prop :=
  ∀ k ∈ w, Token.Sound k.kind k.text

lemma AllSound.left {v w : List Token} (h : AllSound (v ++ w)) : AllSound v :=
  fun k hk => h k (List.mem_append_left _ hk)

lemma AllSound.right {v w : List Token} (h : AllSound (v ++ w)) : AllSound w :=
  fun k hk => h k (List.mem_append_right _ hk)

lemma AllSound.head {k : Token} {w : List Token} (h : AllSound (k :: w)) :
    Token.Sound k.kind k.text :=
  h k List.mem_cons_self

lemma AllSound.tail {k : Token} {w : List Token} (h : AllSound (k :: w)) : AllSound w :=
  fun k' hk => h k' (List.mem_cons_of_mem k hk)

lemma isName_of_sound {k : Token} (hk : k.kind = .name) (h : Token.Sound k.kind k.text) :
    Token.IsName k.text := by
  rw [hk] at h
  exact h

lemma written_denotes {k : Token} {v : Value} (h : Denotes k v) (hs : Token.Sound k.kind k.text) :
    v.Written := by
  rcases h with ⟨hk, h, hn⟩ | ⟨hk, h⟩ | hk | hk | hk
  · rw [hk] at hs
    obtain ⟨ds, htext, hds, hne, hle⟩ := hs
    rw [htext, Text.readInt_digits hds hne] at h
    split at h <;> cases h
    exact ⟨by omega, hle⟩
  · rw [hk] at hs
    obtain ⟨x, hx, hpos⟩ := hs
    obtain rfl := Option.some.inj (hx.symm.trans h)
    exact hpos
  all_goals trivial

mutual

lemma written_sequence {w : List Token} {t : Tree} (h : Sequence w t) (hs : AllSound w) :
    t.Written := by
  match h with
  | .one h => exact written_level h hs
  | .several h => exact ⟨by simp, written_elements h hs⟩

lemma written_elements {w : List Token} {ts : List Tree} (h : Elements w ts) (hs : AllSound w) :
    Tree.AllWritten ts := by
  match h with
  | .one h => exact ⟨written_level h hs, trivial⟩
  | .cons h hk hts => exact ⟨written_level h hs.left, written_elements hts hs.right.tail⟩

lemma written_level {n : Nat} {w : List Token} {t : Tree} (h : Level n w t) (hs : AllSound w) :
    t.Written := by
  match h with
  | .left hn ha h hk h' => exact ⟨written_level h hs.left, written_level h' hs.right.tail⟩
  | .right hn ha h hk h' => exact ⟨written_level h hs.left, written_level h' hs.right.tail⟩
  | .up h => exact written_level h hs
  | .signed h => exact written_signed h hs

lemma written_signed {w : List Token} {t : Tree} (h : Signed w t) (hs : AllSound w) :
    t.Written := by
  match h with
  | .unary hk h =>
    have ht := written_signed h hs.tail
    exact ht
  | .primary h => exact written_primary h hs

lemma written_primary {w : List Token} {t : Tree} (h : Primary w t) (hs : AllSound w) :
    t.Written := by
  match h with
  | .literal h => exact written_denotes h hs.head
  | .name hk => exact isName_of_sound hk hs.head
  | .call_none hk ho hc => exact ⟨isName_of_sound hk hs.head, trivial⟩
  | .call hk ho hts hc => exact ⟨isName_of_sound hk hs.head, written_elements hts hs.tail.tail.left⟩
  | .unit ho hc => trivial
  | .group ho h hc => exact written_sequence h hs.tail.left

end

end Grammar

namespace Tree

lemma ofSource_of_scan {limit : Int} {source : String} {ts : List Token}
    (h : Token.scan source = .ok ts) : ofSource limit source = build (some source) limit ts := by
  rw [ofSource, h]
  rfl

/-- The tree of a source is written. -/
theorem written_of_source {limit : Int} {source : String} {t : Tree}
    (h : ofSource limit source = .ok t) : t.Written := by
  cases hts : Token.scan source with
  | error e =>
    rw [ofSource, hts] at h
    cases h
  | ok ts =>
    rw [ofSource_of_scan hts] at h
    have hs := Token.sound_scan hts
    exact Grammar.written_sequence (Grammar.sequence_of_build h) fun k hk =>
      hs k ((List.takeWhile_sublist _).subset hk)

end Tree

end Reckon
