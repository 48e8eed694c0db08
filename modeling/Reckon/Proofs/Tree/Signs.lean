import Mathlib.Data.List.Forall2
import Reckon.Proofs.Token.Signs
import Reckon.Proofs.Tree.Sources

/-!
The lexical choice between the kinds of signs loses nothing. In the tokens of an expression, whoever
made them, every binary sign stands behind an operand and every unary one does not, because the
grammar lets a phrase begin only where an operand is missing and end only with an operand. A scan
decides signs in the same way, so of all tokens that differ from those of a scan in the kinds of
signs alone no others are accepted.
-/

namespace Reckon

open Token (Decided ends Turned)

namespace Grammar

/-- The tokens of a phrase: signs are decided as where an operand is missing, and the last token
ends an operand. -/
structure Complete (w : List Token) : Prop where
  decided : Decided false w
  ends : ends false w = true

namespace Complete

variable {v w : List Token} {k o c : Token}

/-- A binary operator between two phrases. -/
lemma binary {op : Binary} (hv : Complete v) (hk : k.kind = .binary op) (hw : Complete w) :
    Complete (v ++ k :: w) := by
  refine ⟨Token.decided_append.2 ⟨hv.decided, ?_, ?_⟩, ?_⟩
  · rw [hv.ends, hk]
    unfold Token.Kind.Placed
    split <;> simp_all
  · rw [hk]
    exact hw.decided
  · rw [Token.ends_append, Token.ends, hk]
    exact hw.ends

/-- A comma between two phrases. -/
lemma comma (hv : Complete v) (hk : k.kind = .comma) (hw : Complete w) :
    Complete (v ++ k :: w) := by
  refine ⟨Token.decided_append.2 ⟨hv.decided, ?_, ?_⟩, ?_⟩
  · rw [hk]
    trivial
  · rw [hk]
    exact hw.decided
  · rw [Token.ends_append, Token.ends, hk]
    exact hw.ends

lemma unary {op : Unary} (hk : k.kind = .unary op) (hw : Complete w) : Complete (k :: w) := by
  refine ⟨⟨?_, ?_⟩, ?_⟩
  · rw [hk]
    unfold Token.Kind.Placed
    split <;> simp_all
  · rw [hk]
    exact hw.decided
  · rw [Token.ends, hk]
    exact hw.ends

/-- A token that is an operand by itself. -/
lemma single (hk : k.kind.endsOperand) : Complete [k] := by
  refine ⟨⟨?_, trivial⟩, hk⟩
  unfold Token.Kind.Placed
  split <;> simp_all [Token.Kind.endsOperand]

/-- Whatever is decided as behind an opening parenthesis, up to the closing one. -/
lemma parentheses (ho : o.kind = .opening) (hw : Decided false w) (hc : c.kind = .closing) :
    Complete (o :: (w ++ [c])) := by
  refine ⟨⟨?_, ?_⟩, ?_⟩
  · rw [ho]
    trivial
  · rw [ho]
    refine Token.decided_append.2 ⟨hw, ?_, trivial⟩
    rw [hc]
    trivial
  · rw [Token.ends, Token.ends_append, Token.ends, hc]
    rfl

/-- A name before a phrase in parentheses. -/
lemma call (hk : k.kind = .name) (ho : o.kind = .opening) (hw : Complete (o :: w)) :
    Complete (k :: o :: w) := by
  obtain ⟨⟨-, hd⟩, he⟩ := hw
  refine ⟨⟨?_, ?_, hd⟩, he⟩
  · rw [hk]
    trivial
  · rw [ho]
    trivial

end Complete

mutual

lemma complete_of_sequence {w : List Token} {t : Tree} (h : Sequence w t) : Complete w := by
  match h with
  | .one h => exact complete_of_level h
  | .several hs => exact complete_of_elements hs

lemma complete_of_elements {w : List Token} {ts : List Tree} (h : Elements w ts) : Complete w := by
  match h with
  | .one h => exact complete_of_level h
  | .cons h hk hs => exact (complete_of_level h).comma hk (complete_of_elements hs)

lemma complete_of_level {n : Nat} {w : List Token} {t : Tree} (h : Level n w t) : Complete w := by
  match h with
  | .left hn ha h hk h' | .right hn ha h hk h' =>
    exact (complete_of_level h).binary hk (complete_of_level h')
  | .up h => exact complete_of_level h
  | .signed h => exact complete_of_signed h

lemma complete_of_signed {w : List Token} {t : Tree} (h : Signed w t) : Complete w := by
  match h with
  | .unary hk h => exact (complete_of_signed h).unary hk
  | .primary h => exact complete_of_primary h

lemma complete_of_primary {w : List Token} {t : Tree} (h : Primary w t) : Complete w := by
  match h with
  | .literal h =>
    refine .single ?_
    cases h <;> simp [Token.Kind.endsOperand, *]
  | .name hk => exact .single (by rw [hk]; rfl)
  | .call_none hk ho hc => exact .call hk ho (.parentheses (w := []) ho trivial hc)
  | .call hk ho hs hc => exact .call hk ho (.parentheses ho (complete_of_elements hs).decided hc)
  | .unit ho hc => exact .parentheses (w := []) ho trivial hc
  | .group ho h hc => exact .parentheses ho (complete_of_sequence h).decided hc

end

lemma body_cons {k : Token} {ks : List Token} (hk : k.kind ≠ .stop) :
    body (k :: ks) = k :: body ks :=
  body_append (List.forall_mem_singleton.2 hk) ks

/-- Of the tokens with other kinds of signs than those of a scan, at most the same
ones are decided. -/
lemma eq_of_decided {ts ts' : List Token} (hturned : List.Forall₂ Turned ts ts') {after : Bool}
    (hended : Token.Ended ts) (hts : Decided after ts) (hts' : Decided after (body ts')) :
    ts' = ts := by
  induction hturned generalizing after with
  | nil => rfl
  | @cons k k' ks ks' hk hks ih =>
    by_cases hstop : k.kind = .stop
    · -- the only `stop` is the last token, and it has no other kind
      obtain ⟨w, pos, heq, -, hw⟩ := hended
      cases w with
      | cons k₁ w =>
        cases heq
        exact absurd hstop (hw k List.mem_cons_self)
      | nil =>
        cases heq
        cases hks
        have hstop' : k'.kind.Placed after := by
          rw [hk.stop_iff.2 rfl]
          trivial
        rw [hk.eq_of_placed hts.1 hstop']
    · rw [body_cons (mt hk.stop_iff.1 hstop)] at hts'
      obtain rfl := hk.eq_of_placed hts.1 hts'.1
      rw [ih (hended.tail hstop) hts.2 hts'.2]

end Grammar

open Grammar (body)

/-- **Nothing is lost by deciding signs before the tree is built.** Whatever tokens are accepted, a
binary `+` or `-` in them comes directly behind a token that ends an operand, and a unary one comes
first or behind a token that does not. So if the tokens of a source are given other kinds of signs,
they are not accepted. -/
theorem signs_decided :
    (∀ source limit ts t, Tree.build source limit ts = .ok t →
      ∀ (v : List Token) (k : Token) (w : List Token), body ts = v ++ k :: w →
      (k.kind = .binary (.arith .add) ∨ k.kind = .binary (.arith .sub) →
        ∃ p, v.getLast? = some p ∧ p.kind.endsOperand = true) ∧
      (k.kind = .unary .pos ∨ k.kind = .unary .neg →
        ∀ p, v.getLast? = some p → p.kind.endsOperand = false)) ∧
    ∀ text ts, Token.scan text = .ok ts → ∀ ts', List.Forall₂ Turned ts ts' →
      ∀ source limit t, Tree.build source limit ts' = .ok t → ts' = ts := by
  refine ⟨fun source limit ts t h v k w hbody => ?_,
    fun text ts hscan ts' hturned source limit t h => ?_⟩
  · have hcomplete := Grammar.complete_of_sequence (Grammar.sequence_of_build h)
    rw [hbody] at hcomplete
    have hplaced := hcomplete.decided.placed
    rw [Token.ends_eq_getLast?] at hplaced
    refine ⟨fun hk => ?_, fun hk p hp => ?_⟩
    · cases hlast : v.getLast? with
      | none => rcases hk with hk | hk <;> simp [hlast, hk, Token.Kind.Placed] at hplaced
      | some p =>
        refine ⟨p, rfl, ?_⟩
        rcases hk with hk | hk <;> simpa [hlast, hk, Token.Kind.Placed] using hplaced
    · rcases hk with hk | hk <;> simpa [hp, hk, Token.Kind.Placed] using hplaced
  · have hended := Token.ended_scan text
    rw [hscan] at hended
    have hcomplete := Grammar.complete_of_sequence (Grammar.sequence_of_build h)
    exact Grammar.eq_of_decided hturned hended (Token.decided_scan hscan) hcomplete.decided

/-- The two signs of `a - -b`: the first stands behind an operand and the second does not, and no
other kinds of them are accepted. -/
theorem signs_decided_difference :
    let minus : Token := ⟨.binary (.arith .sub), "-", 2⟩
    let neg : Token := ⟨.unary .neg, "-", 4⟩
    let ts : List Token := [⟨.name, "a", 0⟩, minus, neg, ⟨.name, "b", 5⟩, ⟨.stop, "", 6⟩]
    Token.scan "a - -b" = .ok ts ∧
      Tree.build none 1 ts = .ok (.binary (.arith .sub) (.name "a") (.unary .neg (.name "b"))) ∧
      (∃ p, [(⟨.name, "a", 0⟩ : Token)].getLast? = some p ∧ p.kind.endsOperand = true) ∧
      (∀ p, [⟨.name, "a", 0⟩, minus].getLast? = some p → p.kind.endsOperand = false) ∧
      ∀ ts', List.Forall₂ Turned ts ts' → ∀ t, Tree.build none 1 ts' = .ok t → ts' = ts := by
  intro minus neg ts
  have hscan : Token.scan "a - -b" = .ok ts := by
    rw [Token.scan_eq]
    simp only [ts, minus, neg]
    decide +kernel
  have hbuild : Tree.build none 1 ts =
      .ok (.binary (.arith .sub) (.name "a") (.unary .neg (.name "b"))) := rfl
  have hplaced := signs_decided.1 none 1 ts _ hbuild
  refine ⟨hscan, hbuild, ?_, ?_, fun ts' h t => signs_decided.2 _ ts hscan ts' h none 1 t⟩
  · exact (hplaced [⟨.name, "a", 0⟩] minus [neg, ⟨.name, "b", 5⟩] rfl).1 (.inr rfl)
  · exact (hplaced [⟨.name, "a", 0⟩, minus] neg [⟨.name, "b", 5⟩] rfl).2 (.inr rfl)

end Reckon
