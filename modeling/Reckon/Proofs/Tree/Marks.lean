import Reckon.Proofs.Token.Scans
import Reckon.Proofs.Tree.Written
import Reckon.Tree.Text

/-!
The tokens of a printed tree. `marks` gives them by kind and text, and the scan of the printed form
finds these, wherever the form stands: a prefix operator is never glued to an equality sign, a sign
in front of an operand is never taken for a binary one, and after an operand comes a blank, a comma,
a parenthesis or the end.
-/

namespace Reckon

open Token

def Value.marks : Value → List Mark
  | .int n => [(.int, toString n)]
  | .float x => [(.float, Decimal.write x)]
  | .boolean b => [if b then (.yes, "true") else (.no, "false")]
  | .string s => [(.string, s)]
  | .tuple _ => []
  | .empty => [(.opening, "("), (.closing, ")")]

namespace Tree

mutual

/-- The tokens of the printed form of a finite tree. -/
def marks : Tree → List Mark
  | literal v => v.marks
  | name n => [(.name, n)]
  | unary op t => (.unary op, op.symbol) :: t.marks
  | binary op l r =>
    (.opening, "(") :: (l.marks ++ (.binary op, op.symbol) :: (r.marks ++ [(.closing, ")")]))
  | call f ts => (.name, f) :: (.opening, "(") :: (listMarks ts ++ [(.closing, ")")])
  | tuple ts => (.opening, "(") :: (listMarks ts ++ [(.closing, ")")])

/-- The trees one after another with commas between them. -/
def listMarks : List Tree → List Mark
  | [] => []
  | t :: ts => t.marks ++ moreMarks ts

/-- Every tree after a comma. -/
def moreMarks : List Tree → List Mark
  | [] => []
  | t :: ts => (.comma, ",") :: (t.marks ++ moreMarks ts)

end

/-- Texts, each after a comma. -/
def listed : List String → List Char
  | [] => []
  | s :: ss => ',' :: ' ' :: (s.toList ++ listed ss)

/-! ### Scanning -/

section

variable {after : Bool} {rest : List Char}

lemma toString_of_nonneg {n : Int} (h : 0 ≤ n) :
    toString n = String.ofList (Nat.toDigits 10 n.toNat) := by
  obtain ⟨m, rfl⟩ := Int.eq_ofNat_of_zero_le h
  rfl

lemma scans_int {n : Int} (h : 0 ≤ n) (hn : n ≤ greatest) (hr : Clear rest) :
    Scans after ((toString n).toList ++ rest) [(.int, toString n)] true rest := by
  have hd := Text.digits_toDigits n.toNat
  have hfit : fits (Nat.toDigits 10 n.toNat) = true := by
    rw [fits_iff hd, Text.numeral_toDigits]
    omega
  have hs : Scans after _ _ _ rest := scans_number hd Nat.toDigits_ne_nil .none .none hr
  rw [toString_of_nonneg h, String.toList_ofList]
  simpa [hfit] using hs

lemma scans_float {x : Float} (h : Rounding.Signed .positive x.toModel.unpack)
    (hx : x.isInf = false) (hr : Clear rest) :
    Scans after ((Decimal.write x).toList ++ rest) [(.float, Decimal.write x)] true rest := by
  obtain ⟨q, ⟨ws, f, fs, p, k, hw, hne, hf, hp, hfp, ht, -⟩, -⟩ := Decimal.write_writes h hx
  have hs : Scans after _ _ _ rest := scans_number hw hne hf hp hr
  have hkind : (f.isEmpty && p.isEmpty && fits ws) = false := by
    rcases hfp with hf | hp
    · simp [hf]
    · simp [hp]
  rw [hkind, ← ht, String.ofList_toList] at hs
  exact hs

lemma clear_not_word (hr : Clear rest) : ∀ d, rest.head? = some d → wordChar d = false := by
  intro d hd
  rcases hr d hd with rfl | rfl | rfl <;> rfl

lemma scans_value {v : Value} (hv : v.Written) (hf : v.Finite) (hr : Clear rest) :
    Scans false (v.text.toList ++ rest) v.marks true rest := by
  cases v with
  | int n => exact scans_int hv.1 hv.2 hr
  | float x => exact scans_float hv hf hr
  | boolean b => exact scans_boolean b (clear_not_word hr)
  | string s => exact scans_string s
  | tuple items => exact hv.elim
  | empty => exact scans_opening.append scans_closing

lemma toList_intercalate (s : String) (ss : List String) :
    (", ".intercalate (s :: ss)).toList = s.toList ++ listed ss := by
  induction ss generalizing s with
  | nil => simp [listed]
  | cons u us ih =>
    rw [String.intercalate_cons_cons, String.toList_append, String.toList_append, ih, listed,
      List.append_assoc]
    rfl

lemma clear_listed (ss : List String) (hr : Clear rest) : Clear (listed ss ++ rest) := by
  cases ss with
  | nil => exact hr
  | cons s ss => exact clear_cons (by simp)

lemma head_digits {ds : List Char} (h : Text.Digits ds) (hne : ds ≠ []) (cs : List Char) :
    (ds ++ cs).head? ≠ some '=' := by
  rcases ds with _ | ⟨d, ds⟩
  · contradiction
  · rintro ⟨⟩
    exact absurd h.head (by decide)

lemma head_name {n : String} (h : IsName n) (cs : List Char) :
    (n.toList ++ cs).head? ≠ some '=' := by
  obtain ⟨⟨c, ds, rfl, hc, -⟩, -, -⟩ := h
  rw [String.toList_ofList]
  rintro ⟨⟩
  exact absurd hc (by decide)

/-- No printed form begins with an equality sign, which would become one operator with a
`!` before it. -/
lemma head_text {t : Tree} (hp : t.Written) (hf : t.Finite) (cs : List Char) :
    (t.text.toList ++ cs).head? ≠ some '=' := by
  cases t with
  | literal v =>
    cases v with
    | int n =>
      have ht : (literal (.int n)).text = String.ofList (Nat.toDigits 10 n.toNat) :=
        toString_of_nonneg hp.1
      rw [ht, String.toList_ofList]
      exact head_digits (Text.digits_toDigits _) Nat.toDigits_ne_nil cs
    | float x =>
      obtain ⟨q, ⟨ws, f, fs, p, k, hw, hne, -, -, -, ht, -⟩, -⟩ := Decimal.write_writes hp hf
      have ht : (literal (.float x)).text.toList = ws ++ f ++ p := ht
      rw [ht, List.append_assoc, List.append_assoc]
      exact head_digits hw hne _
    | boolean b => cases b <;> simp [text, Value.text]
    | string s => simp [text, Value.text, Value.quote]
    | tuple _ => exact hp.elim
    | empty => simp [text, Value.text]
  | name n => exact head_name hp cs
  | unary op t => cases op <;> simp [text, Unary.symbol]
  | binary op l r => simp [text]
  | call f ts =>
    rw [text, String.toList_append, String.toList_append, String.toList_append, List.append_assoc,
      List.append_assoc, List.append_assoc]
    exact head_name hp.1 _
  | tuple ts => simp [text]

mutual

theorem scans_tree (t : Tree) (hp : t.Written) (hf : t.Finite) {rest : List Char}
    (hr : Clear rest) :
    Scans false (t.text.toList ++ rest) t.marks true rest := by
  match t with
  | literal v => exact scans_value hp hf hr
  | name n => exact scans_name hp (clear_not_word hr)
  | unary op t =>
    have ht := scans_tree t hp hf hr
    have hop := scans_unary op (head_text (t := t) hp hf rest)
    rw [text, String.toList_append, List.append_assoc]
    exact hop.append ht
  | binary op l r =>
    have hblank : Clear (' ' :: (op.symbol.toList ++ ' ' :: (r.text.toList ++ ')' :: rest))) :=
      clear_cons (.inl rfl)
    have hclosing : Clear (')' :: rest) := clear_cons (.inr (.inr rfl))
    have hl := scans_tree l hp.1 hf.1 hblank
    have hop : Scans true (op.symbol.toList ++ ' ' :: (r.text.toList ++ ')' :: rest)) _ _ _ :=
      scans_binary op
    have hr := scans_tree r hp.2 hf.2 hclosing
    have htext : (binary op l r).text.toList ++ rest =
        '(' :: (l.text.toList ++ ' ' ::
          (op.symbol.toList ++ ' ' :: (r.text.toList ++ ')' :: rest))) := by
      simp [text]
    rw [htext]
    exact scans_opening.append (hl.append ((scans_gap rfl).append (hop.append
      ((scans_gap rfl).append (hr.append scans_closing)))))
  | call f ts =>
    have hname : Scans false
        (f.toList ++ '(' :: ((", ".intercalate (texts ts)).toList ++ ')' :: rest)) _ _ _ :=
      scans_name hp.1 (by rintro d ⟨⟩; rfl)
    have hts := scans_list ts hp.2 hf rest
    have htext : (call f ts).text.toList ++ rest =
        f.toList ++ '(' :: ((", ".intercalate (texts ts)).toList ++ ')' :: rest) := by
      simp [text]
    rw [htext]
    exact hname.append (scans_opening.append hts)
  | tuple ts =>
    have hts := scans_list ts hp.2 hf rest
    have htext : (tuple ts).text.toList ++ rest =
        '(' :: ((", ".intercalate (texts ts)).toList ++ ')' :: rest) := by
      simp [text]
    rw [htext]
    exact scans_opening.append hts

lemma scans_list (ts : List Tree) (hp : AllWritten ts) (hf : AllFinite ts) (rest : List Char) :
    Scans false ((", ".intercalate (texts ts)).toList ++ ')' :: rest)
      (listMarks ts ++ [(.closing, ")")])
      true rest := by
  match ts with
  | [] => exact scans_closing
  | t :: ts =>
    have hclear : Clear (')' :: rest) := clear_cons (by simp)
    have ht := scans_tree t hp.1 hf.1 (clear_listed (texts ts) hclear)
    have hts := scans_more ts hp.2 hf.2 hclear
    rw [texts, toList_intercalate, List.append_assoc, listMarks, List.append_assoc]
    exact ht.append (hts.append scans_closing)

lemma scans_more (ts : List Tree) (hp : AllWritten ts) (hf : AllFinite ts) {rest : List Char}
    (hr : Clear rest) : Scans true (listed (texts ts) ++ rest) (moreMarks ts) true rest := by
  match ts with
  | [] => exact .nil
  | t :: ts =>
    have ht := scans_tree t hp.1 hf.1 (clear_listed (texts ts) hr)
    have hts := scans_more ts hp.2 hf.2 hr
    have hblank : gap ' ' := rfl
    have htext : listed (texts (t :: ts)) ++ rest =
        ',' :: ' ' :: (t.text.toList ++ (listed (texts ts) ++ rest)) := by
      simp [texts, listed]
    rw [htext]
    exact scans_comma.append ((scans_gap hblank).append (ht.append hts))

end

end

end Tree

end Reckon
