/-!
Names and what they are bound to, kept in the order of code points, so that two collections with the
same bindings are the same. `get?` is the view that the operations are described by: binding a name
and releasing it change what that name gives and nothing else.
-/

namespace Reckon

/-- Names and what they are bound to, each name once, in the order of code points. -/
structure Names (α : Type) where
  entries : List (String × α)
  sorted : entries.Pairwise fun p q => p.1 < q.1

namespace Names

variable {α : Type}

/-- What a name is bound to in a list of names. -/
def find? (n : String) : List (String × α) → Option α
  | [] => none
  | (m, a) :: rest => if n = m then some a else find? n rest

/-- Binds a name in a list of names, at its place. -/
def place (n : String) (a : α) : List (String × α) → List (String × α)
  | [] => [(n, a)]
  | (m, b) :: rest =>
    if n = m then (n, a) :: rest
    else if n < m then (n, a) :: (m, b) :: rest
    else (m, b) :: place n a rest

/-- Binding a name brings in nothing else. -/
theorem mem_place {n : String} {a : α} {l : List (String × α)} {p : String × α}
    (h : p ∈ place n a l) : p = (n, a) ∨ p ∈ l := by
  induction l with
  | nil => simpa [place] using h
  | cons q l ih =>
    obtain ⟨m, b⟩ := q
    rw [place] at h
    split at h
    · grind
    · split at h <;> grind

/-- Names stay in order when one is bound. -/
theorem pairwise_place (n : String) (a : α) {l : List (String × α)}
    (h : l.Pairwise fun p q => p.1 < q.1) : (place n a l).Pairwise fun p q => p.1 < q.1 := by
  induction l with
  | nil => simp [place]
  | cons q l ih =>
    obtain ⟨m, b⟩ := q
    rw [List.pairwise_cons] at h
    rw [place]
    split
    · next hnm => subst hnm; exact List.pairwise_cons.2 h
    · next hnm =>
      split
      · next hlt =>
        refine List.pairwise_cons.2 ⟨fun p hp => ?_, List.pairwise_cons.2 h⟩
        rcases List.mem_cons.1 hp with rfl | hp
        · exact hlt
        · exact String.lt_trans hlt (h.1 p hp)
      · next hlt =>
        have hmn : m < n := by
          rcases Std.lt_trichotomy n m with h | h | h
          · exact absurd h hlt
          · exact absurd h hnm
          · exact h
        refine List.pairwise_cons.2 ⟨fun p hp => ?_, ih h.2⟩
        rcases mem_place hp with rfl | hp
        · exact hmn
        · exact h.1 p hp

def empty : Names α := ⟨[], .nil⟩

def get? (names : Names α) (n : String) : Option α :=
  find? n names.entries

def insert (names : Names α) (n : String) (a : α) : Names α :=
  ⟨place n a names.entries, pairwise_place n a names.sorted⟩

def erase (names : Names α) (n : String) : Names α :=
  ⟨names.entries.filter (·.1 ≠ n), names.sorted.filter _⟩

theorem find?_place (n m : String) (a : α) (l : List (String × α)) :
    find? m (place n a l) = if m = n then some a else find? m l := by
  induction l with
  | nil => rfl
  | cons p l ih =>
    obtain ⟨k, b⟩ := p
    rw [place]
    split
    · next h => grind [find?]
    · split <;> grind [find?]

theorem find?_filter (n m : String) (l : List (String × α)) :
    find? m (l.filter (·.1 ≠ n)) = if m = n then none else find? m l := by
  induction l with
  | nil => simp [find?]
  | cons p l ih => rw [List.filter_cons]; grind [find?]

theorem get?_insert (names : Names α) (n m : String) (a : α) :
    (names.insert n a).get? m = if m = n then some a else names.get? m :=
  find?_place n m a names.entries

theorem get?_erase (names : Names α) (n m : String) :
    (names.erase n).get? m = if m = n then none else names.get? m :=
  find?_filter n m names.entries

theorem find?_eq_none {n : String} {l : List (String × α)} (h : ∀ p ∈ l, n ≠ p.1) :
    find? n l = none := by
  induction l with
  | nil => rfl
  | cons p l ih =>
    obtain ⟨m, a⟩ := p
    rw [find?, if_neg (h (m, a) List.mem_cons_self), ih fun p hp => h p (List.mem_cons_of_mem _ hp)]

/-- A name before all others gives nothing. -/
theorem find?_of_lt {n m : String} {a : α} {l : List (String × α)}
    (h : ((m, a) :: l).Pairwise fun p q => p.1 < q.1) (hn : n < m) :
    find? n ((m, a) :: l) = none := by
  refine find?_eq_none fun p hp => ?_
  rcases List.mem_cons.1 hp with rfl | hp
  · exact Std.ne_of_lt hn
  · exact Std.ne_of_lt (String.lt_trans hn ((List.pairwise_cons.1 h).1 p hp))

theorem eq_of_find? {l k : List (String × α)} (hl : l.Pairwise fun p q => p.1 < q.1)
    (hk : k.Pairwise fun p q => p.1 < q.1) (h : ∀ n, find? n l = find? n k) : l = k := by
  induction l generalizing k with
  | nil =>
    cases k with
    | nil => rfl
    | cons q k => simpa [find?] using h q.1
  | cons p l ih =>
    obtain ⟨m, a⟩ := p
    cases k with
    | nil => simpa [find?] using h m
    | cons q k =>
      obtain ⟨n, b⟩ := q
      rcases Std.lt_trichotomy m n with hmn | rfl | hmn
      · have hm := h m
        rw [find?_of_lt hk hmn, find?, if_pos rfl] at hm
        cases hm
      · have hab : a = b := by simpa [find?] using h m
        subst hab
        congr 1
        refine ih (List.pairwise_cons.1 hl).2 (List.pairwise_cons.1 hk).2 fun i => ?_
        by_cases hi : i = m
        · subst hi
          rw [find?_eq_none fun p hp => Std.ne_of_lt ((List.pairwise_cons.1 hl).1 p hp),
            find?_eq_none fun p hp => Std.ne_of_lt ((List.pairwise_cons.1 hk).1 p hp)]
        · simpa [find?, hi] using h i
      · have hn := h n
        rw [find?_of_lt hl hmn, find?, if_pos rfl] at hn
        cases hn

theorem ext {a b : Names α} (h : ∀ n, a.get? n = b.get? n) : a = b := by
  obtain ⟨l, hl⟩ := a
  obtain ⟨k, hk⟩ := b
  obtain rfl := eq_of_find? hl hk h
  rfl

end Names

end Reckon
