import Reckon.Proofs.Tree.Levels

/-!
Texts that are read as trees. `Spells s n t` says that the text `s` is read as the tree `t` wherever
an operand can stand and `n` levels of nesting are left: what `s` scans to does not depend on the
text around it, and the builder takes the tokens for `t`. Signs, parentheses and commas make longer
texts of this sort from shorter ones.
-/

namespace Reckon.Tree

open Token Builder

/-- None of the marks ends the tokens. -/
def Endless (ms : List Mark) : Prop :=
  ∀ m ∈ ms, m.1 ≠ .stop

lemma Endless.nil : Endless [] :=
  nofun

lemma Endless.cons {m : Mark} {ms : List Mark} (hm : m.1 ≠ .stop) (h : Endless ms) :
    Endless (m :: ms) := by
  intro m' hm'
  rcases List.mem_cons.1 hm' with rfl | hm'
  · exact hm
  · exact h m' hm'

lemma Endless.append {ms ns : List Mark} (h : Endless ms) (k : Endless ns) :
    Endless (ms ++ ns) := by
  intro m hm
  rcases List.mem_append.1 hm with hm | hm
  · exact h m hm
  · exact k m hm

/-- The builder finds the tokens of a text before it, and nothing after them. -/
lemma shown_of_scans {s : String} {ms : List Mark}
    (h : ∀ rest, Clear rest → Scans false (s.toList ++ rest) ms true rest) (hms : Endless ms) :
    ∃ ts, scan s = .ok ts ∧ Shown (.ofTokens ts) ms [] := by
  have h := h [] clear_nil
  rw [List.append_nil] at h
  obtain ⟨w, pos, rfl, hscan⟩ := scan_of_scans h
  have hkind : ∀ k ∈ w, decide (k.kind ≠ .stop) = true :=
    fun k hk => decide_eq_true (hms (mark k) (List.mem_map_of_mem hk))
  refine ⟨_, hscan, w, rfl, ?_⟩
  change (w ++ [(⟨.stop, "", pos⟩ : Token)]).takeWhile (fun k => decide (k.kind ≠ .stop)) = w ++ []
  rw [List.takeWhile_append_of_pos hkind]
  rfl

/-- The text is read as the tree wherever `n` levels are left. -/
def Spells (s : String) (n : Nat) (t : Tree) : Prop :=
  ∃ ms, Endless ms ∧ (∀ rest, Clear rest → Scans false (s.toList ++ rest) ms true rest) ∧
    ∀ limit, Takes limit ms n t

/-- The texts, each after a comma, are read as the trees. -/
def SpellsMore (ss : List String) (n : Nat) (ts : List Tree) : Prop :=
  ∃ ms, Endless ms ∧ Separated ms ∧
    (∀ rest, Clear rest → Scans true (listed ss ++ rest) ms true rest) ∧
    ∀ limit, MoreTakes limit ms n ts

variable {s : String} {ss : List String} {n k : Nat} {t : Tree} {ts : List Tree}

lemma Spells.mono (h : Spells s n t) (hk : n ≤ k) : Spells s k t := by
  obtain ⟨ms, he, hs, ht⟩ := h
  exact ⟨ms, he, hs, fun limit => (ht limit).mono hk⟩

/-- A whole source of this sort has the tree. -/
theorem Spells.ofSource {limit : Int} (h : Spells s n t) (hl : n ≤ limit) :
    ofSource limit s = .ok t := by
  obtain ⟨ms, he, hs, ht⟩ := h
  obtain ⟨ts, hscan, hshown⟩ := shown_of_scans hs he
  have hd : (0 + n : Nat) ≤ limit := by omega
  obtain ⟨c, hr, hc⟩ := ht limit hshown nofun hd
  have hstop : c.current.kind = .stop := by rw [Cursor.kind_current, hc]; rfl
  rw [ofSource_of_scan hscan]
  refine build_eq_ok.2 ⟨c, .sequence_one (chain_one hr ?_ _) ?_, hc⟩ <;> simp [hstop]

lemma Spells.negative (h : Spells s n t) : Spells ("-" ++ s) (n + 1) (unary .neg t) := by
  obtain ⟨ms, he, hs, ht⟩ := h
  refine ⟨(.unary .neg, "-") :: ms, .cons nofun he, fun rest hr => ?_,
    fun limit => takes_unary (ht limit)⟩
  have hsign : Scans false ('-' :: (s.toList ++ rest)) [(.unary .neg, "-")] false
      (s.toList ++ rest) :=
    scans_single rfl (pair?_none (by decide) _) rfl
  rw [String.toList_append, List.append_assoc]
  exact hsign.append (hs rest hr)

lemma spellsMore_nil : SpellsMore [] n [] :=
  ⟨[], .nil, nofun, fun _ _ => .nil, fun _ => moreTakes_nil⟩

lemma Spells.more (h : Spells s n t) (hs : SpellsMore ss k ts) :
    SpellsMore (s :: ss) (max n k) (t :: ts) := by
  obtain ⟨ms, he, hms, ht⟩ := h
  obtain ⟨ns, hne, hsep, hns, hts⟩ := hs
  refine ⟨(.comma, ",") :: (ms ++ ns), .cons nofun (he.append hne), fun m hm => by cases hm; rfl,
    fun rest hr => ?_, fun limit => moreTakes_cons (ht limit) (hts limit) hsep⟩
  rw [listed, List.cons_append, List.cons_append, List.append_assoc]
  exact scans_comma.append
    ((scans_gap rfl).append ((hms _ (clear_listed ss hr)).append (hns rest hr)))

/-- Parentheses around one text or several. -/
lemma Spells.group (h : Spells s n t) (hs : SpellsMore ss k ts) :
    Spells ("(" ++ ", ".intercalate (s :: ss) ++ ")") (max n k + 1) (.group (t :: ts)) := by
  obtain ⟨ms, he, hms, ht⟩ := h
  obtain ⟨ns, hne, hsep, hns, hts⟩ := hs
  refine ⟨(.opening, "(") :: (ms ++ ns ++ [(.closing, ")")]),
    .cons nofun ((he.append hne).append (.cons nofun .nil)), fun rest _ => ?_,
    fun limit => takes_group (ht limit) (hts limit) hsep⟩
  have hclear : Clear (')' :: rest) := clear_cons (by simp)
  have htext : ("(" ++ ", ".intercalate (s :: ss) ++ ")").toList ++ rest =
      '(' :: (s.toList ++ (listed ss ++ ')' :: rest)) := by
    rw [String.toList_append, String.toList_append, toList_intercalate]
    simp
  rw [htext, List.append_assoc]
  exact scans_opening.append
    ((hms _ (clear_listed ss hclear)).append ((hns _ hclear).append scans_closing))

end Reckon.Tree
