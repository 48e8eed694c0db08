import Mathlib.Data.Finset.Card
import Reckon.Limits.Recent

/-!
What is remembered after a history of questions. The questions that have an answer are the
latest different ones of the history, as many as the capacity allows, in the order in which they
were asked last.
-/

namespace Reckon.Recent

variable {α β : Type} [DecidableEq α]

/-- The different questions of a history, the latest first. A history has its last
question in front. -/
def latest : List α → List α
  | [] => []
  | a :: h => a :: (latest h).filter (· ≠ a)

variable {a b : α} {h : List α}

@[simp] lemma mem_latest : a ∈ latest h ↔ a ∈ h := by
  induction h with
  | nil => simp [latest]
  | cons b h ih =>
    rw [latest, List.mem_cons, List.mem_cons, List.mem_filter, ih]
    by_cases hab : a = b <;> simp [hab]

lemma nodup_latest (h : List α) : (latest h).Nodup := by
  induction h with
  | nil => exact .nil
  | cons a h ih => exact List.nodup_cons.2 ⟨by simp, ih.filter _⟩

/-- There are as many of them as there are different questions. -/
lemma length_latest (h : List α) : (latest h).length = h.toFinset.card := by
  rw [← List.toFinset_card_of_nodup (nodup_latest h)]
  congr 1
  ext a
  simp

/-- Without one question, what is in front of the latest questions is in front of the others. -/
lemma take_filter {l : List α} (hl : l.Nodup) (a : α) (n : Nat) :
    ((l.take (n + 1)).filter (· ≠ a)).take n = (l.filter (· ≠ a)).take n := by
  induction l generalizing n with
  | nil => simp
  | cons b l ih =>
    obtain ⟨hb, hl⟩ := List.nodup_cons.1 hl
    rw [List.take_succ_cons]
    by_cases hab : b = a
    · -- the question is not asked again, so nothing else is left out
      subst hab
      have hne : ∀ c ∈ l, decide (c ≠ b) = true := by
        intro c hc
        exact decide_eq_true (by rintro rfl; exact hb hc)
      rw [List.filter_cons_of_neg (by simp), List.filter_cons_of_neg (by simp),
        List.filter_eq_self.2 hne, List.filter_eq_self.2 fun c hc =>
        hne c (List.mem_of_mem_take hc), List.take_take, Nat.min_self]
    · rw [List.filter_cons_of_pos (by simpa using hab),
        List.filter_cons_of_pos (by simpa using hab)]
      cases n with
      | zero => rfl
      | succ n => rw [List.take_succ_cons, List.take_succ_cons, ih hl]

/-- The memory has the answers of `f` to the latest questions of the history. -/
def Holds (f : α → β) (capacity : Nat) (h : List α) (r : Recent α β) : Prop :=
  r.entries = ((latest h).take capacity).map fun a => (a, f a)

variable {f : α → β} {capacity : Nat} {r : Recent α β}

lemma holds_empty (f : α → β) (capacity : Nat) : Holds f capacity [] empty := by
  simp [Holds, empty, latest]

/-- Asking a question gives the answer of a question that is remembered. -/
lemma Holds.find? (hr : Holds f capacity h r) (a : α) :
    r.find? a = if a ∈ (latest h).take capacity then some (f a) else none := by
  rw [Recent.find?, hr, List.find?_map, Option.map_map]
  generalize (latest h).take capacity = l
  cases hl : l.find? ((fun p : α × β => decide (p.1 = a)) ∘ fun a => (a, f a)) with
  | some b =>
    obtain rfl : b = a := by simpa using List.find?_some hl
    rw [if_pos (List.mem_of_find?_eq_some hl)]
    rfl
  | none =>
    have ha : a ∉ l := fun ha => by simpa using List.find?_eq_none.1 hl a ha
    rw [if_neg ha]
    rfl

theorem Holds.use (hr : Holds f capacity h r) (a : α) :
    Holds f capacity (a :: h) (r.use capacity a (f a)) := by
  rw [Holds] at hr
  rw [Holds, Recent.use, hr, List.filter_map, latest]
  cases capacity with
  | zero => rfl
  | succ n =>
    rw [List.take_succ_cons, List.take_succ_cons, List.map_cons, ← List.map_take]
    exact congrArg (fun l => (a, f a) :: l.map fun a => (a, f a)) (take_filter (nodup_latest h) a n)

/-! ### Questions that are not remembered -/

/-- Of the questions that come after a history, those that have no answer in the memory when
they are asked. -/
def fresh (capacity : Nat) : List α → List α → List α
  | _, [] => []
  | h, a :: as =>
    if a ∈ (latest h).take capacity then fresh capacity (a :: h) as
    else a :: fresh capacity (a :: h) as

/-- With room for all questions, those are asked afresh that have not been asked before. -/
lemma fresh_of_room {as : List α} (hroom : (h ++ as).toFinset.card ≤ capacity) :
    (fresh capacity h as).Nodup ∧ ∀ a, a ∈ fresh capacity h as ↔ a ∈ as ∧ a ∉ h := by
  induction as generalizing h with
  | nil => simp [fresh]
  | cons b as ih =>
    have hsub : h.toFinset ⊆ (h ++ b :: as).toFinset := fun a ha => by simp_all
    have hlatest : (latest h).take capacity = latest h :=
      List.take_of_length_le (length_latest h ▸ (Finset.card_le_card hsub).trans hroom)
    have hmove : ((b :: h) ++ as).toFinset = (h ++ b :: as).toFinset := by
      ext a
      simp only [List.mem_toFinset, List.mem_append, List.mem_cons]
      tauto
    obtain ⟨hnodup, hmem⟩ := ih (hmove ▸ hroom)
    rw [fresh, hlatest]
    simp only [mem_latest]
    by_cases hb : b ∈ h
    · rw [if_pos hb]
      refine ⟨hnodup, fun a => ?_⟩
      rw [hmem, List.mem_cons, List.mem_cons]
      by_cases hab : a = b <;> simp [hab, hb]
    · rw [if_neg hb]
      refine ⟨List.nodup_cons.2 ⟨by simp [hmem], hnodup⟩, fun a => ?_⟩
      rw [List.mem_cons, hmem, List.mem_cons, List.mem_cons]
      by_cases hab : a = b <;> simp [hab, hb]

theorem countP_of_room {as : List α} (hroom : as.toFinset.card ≤ capacity) (p : α → Prop)
    [DecidablePred p] : (fresh capacity [] as).countP p = (as.toFinset.filter p).card := by
  obtain ⟨hnodup, hmem⟩ := fresh_of_room (h := []) hroom
  rw [List.countP_eq_length_filter, ← List.toFinset_card_of_nodup (hnodup.filter _)]
  congr 1
  ext a
  simp [hmem]

end Reckon.Recent
