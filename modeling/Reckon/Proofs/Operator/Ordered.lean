import Reckon.Proofs.Operator.Compared

/-!
Values whose numbers are of one kind. Among these no integer is rounded to a float, so what
compares to two values in a row compares to the last of them, wherever in the tuples the
comparisons are decided: equality is identity and an equivalence, and `<` a strict order of what it
does not tell apart.
-/

namespace Reckon.Value

/-- The numbers in the value are all integers or all floats. -/
def Unmixed (v : Value) : Prop :=
  ∃ k, (k = .int ∨ k = .float) ∧ v.Every (·.kind ≠ k)

variable {a b c l r : Value} {k : Kind} {o p : Ordering}

lemma equal_iff : l.equal r = .ok true ↔ l.compared r = .ok (some .eq) :=
  (equal_as l r).true_iff

lemma less_iff : order .lt l r = .ok true ↔ l.compared r = .ok (some .lt) := by
  by_cases hne : l = empty ∧ r = empty
  · obtain ⟨rfl, rfl⟩ := hne
    exact ⟨nofun, nofun⟩
  have h := order_as .lt l r hne
  cases hc : l.compared r with
  | ok o =>
    rw [hc] at h
    rw [show order .lt l r = _ from h]
    simp [Comparison.holds]
  | error u =>
    rw [hc] at h
    obtain ⟨f, hf⟩ := h
    simp [hf]

/-! ### Comparisons in a row -/

lemma scalars?_trans (hk : k = .int ∨ k = .float) (ha : a.kind ≠ k) (hb : b.kind ≠ k)
    (hc : c.kind ≠ k) (hab : a.scalars? b = some (some o)) (hbc : b.scalars? c = some (some p))
    (ho : o ≠ .gt) (hp : p ≠ .gt) : a.scalars? c = some (some (o.then p)) := by
  have hmix : ¬(Kind.int ≠ k ∧ Kind.float ≠ k) := by rcases hk with rfl | rfl <;> simp
  cases a <;> cases b <;> simp only [scalars?, reduceCtorEq, Option.some.injEq] at hab
  case int.float => exact absurd ⟨ha, hb⟩ hmix
  case float.int => exact absurd ⟨hb, ha⟩ hmix
  all_goals cases c <;> simp only [scalars?, reduceCtorEq, Option.some.injEq] at hbc
  case int.int.float => exact absurd ⟨ha, hc⟩ hmix
  case float.float.int => exact absurd ⟨hc, ha⟩ hmix
  case float.float.float => exact congrArg some (Real.compare_trans hab hbc ho hp)
  all_goals
    subst hab hbc
    exact congrArg (fun o => some (some o)) (then_of_trans ho hp)

/-- The value is neither a tuple nor the unit value. -/
def Scalar (v : Value) : Prop :=
  v.kind ≠ .tuple ∧ v.kind ≠ .empty

variable {x : Option Ordering}

lemma Scalar.compared_iff (h : l.Scalar) : l.compared r = .ok x ↔ l.scalars? r = some x := by
  have hlr : l.compared r = (l.scalars? r).elim (.error .kinds) .ok := by
    cases l <;> cases r <;> first | rfl | exact absurd rfl h.1 | exact absurd rfl h.2
  rw [hlr]
  cases l.scalars? r <;> simp

lemma Scalar.of_scalars (h : l.scalars? r = some x) : r.Scalar := by
  cases r with
  | tuple | empty => cases l <;> cases h
  | _ => exact ⟨nofun, nofun⟩

lemma Scalar.every {P : Value → Prop} (hs : a.Scalar) (h : a.Every P) : P a := by
  cases a with
  | tuple items => exact absurd rfl hs.1
  | _ => exact h

lemma Scalar.trans (hs : a.Scalar) (hk : k = .int ∨ k = .float) (ha : a.Every (·.kind ≠ k))
    (hb : b.Every (·.kind ≠ k)) (hc : c.Every (·.kind ≠ k)) (hab : a.compared b = .ok (some o))
    (hbc : b.compared c = .ok (some p)) (ho : o ≠ .gt) (hp : p ≠ .gt) :
    a.compared c = .ok (some (o.then p)) := by
  have hab := hs.compared_iff.1 hab
  have hsb := Scalar.of_scalars hab
  have hbc := hsb.compared_iff.1 hbc
  have hsc := Scalar.of_scalars hbc
  exact hs.compared_iff.2
    (scalars?_trans hk (hs.every ha) (hsb.every hb) (hsc.every hc) hab hbc ho hp)

/-- The first pair decides, or is equal and the others decide. -/
lemma allCompared_head {as bs : List Value} (h : allCompared (a :: as) (b :: bs) = .ok (some o)) :
    ∃ q, a.compared b = .ok (some q) ∧
      (q = .eq ∧ allCompared as bs = .ok (some o) ∨ q = o ∧ q ≠ .eq) := by
  by_cases hab : a.compared b = .ok (some .eq)
  · exact ⟨.eq, hab, .inl ⟨rfl, allCompared_next hab ▸ h⟩⟩
  · rw [allCompared_first hab] at h
    exact ⟨o, h, .inr ⟨rfl, fun ho => hab (ho ▸ h)⟩⟩

mutual

/-- Two comparisons in a row that are not downward make a third. -/
lemma compared_trans {k : Kind} {o p : Ordering} (hk : k = .int ∨ k = .float) (a b c : Value)
    (ha : a.Every (·.kind ≠ k)) (hb : b.Every (·.kind ≠ k)) (hc : c.Every (·.kind ≠ k))
    (hab : a.compared b = .ok (some o)) (hbc : b.compared c = .ok (some p)) (ho : o ≠ .gt)
    (hp : p ≠ .gt) : a.compared c = .ok (some (o.then p)) := by
  cases a with
  | int | float | boolean | string => exact Scalar.trans ⟨nofun, nofun⟩ hk ha hb hc hab hbc ho hp
  | empty =>
    match b, c with
    | empty, empty =>
      cases hab
      cases hbc
      rfl
  | tuple as =>
    match b, c with
    | tuple bs, tuple cs =>
      rw [compared] at hab hbc ⊢
      split at hab
      · next h =>
        split at hbc
        · next h' =>
          rw [if_pos (h.trans h')]
          exact allCompared_trans hk as bs cs h h' ha hb hc hab hbc ho hp
        · cases hbc
      · cases hab

lemma allCompared_trans {k : Kind} {o p : Ordering} (hk : k = .int ∨ k = .float)
    (as bs cs : List Value) (h : as.length = bs.length) (h' : bs.length = cs.length)
    (has : AllEvery (·.kind ≠ k) as) (hbs : AllEvery (·.kind ≠ k) bs)
    (hcs : AllEvery (·.kind ≠ k) cs) (hab : allCompared as bs = .ok (some o))
    (hbc : allCompared bs cs = .ok (some p)) (ho : o ≠ .gt) (hp : p ≠ .gt) :
    allCompared as cs = .ok (some (o.then p)) := by
  cases as with
  | nil =>
    match bs, cs with
    | [], [] =>
      cases hab
      cases hbc
      rfl
  | cons a as =>
    match bs, cs with
    | b :: bs, c :: cs =>
      obtain ⟨q, hq, hqo⟩ := allCompared_head hab
      obtain ⟨s, hs, hsp⟩ := allCompared_head hbc
      have hrow := compared_trans hk a b c has.1 hbs.1 hcs.1 hq hs
      rcases hqo with ⟨rfl, hab⟩ | ⟨rfl, hne⟩
      · rcases hsp with ⟨rfl, hbc⟩ | ⟨rfl, hne⟩
        · rw [allCompared_next (hrow nofun nofun)]
          exact allCompared_trans hk as bs cs (by simpa using h) (by simpa using h') has.2 hbs.2
            hcs.2 hab hbc ho hp
        · -- The rest of the first two lists does not matter: it is not downward.
          have hac := hrow nofun hp
          rw [allCompared_first (by simpa [hac] using hne), hac]
          cases s <;> cases o <;> simp_all
      · -- The first pair is upward, so it decides whatever comes after it.
        have hs' : s ≠ .gt := by rcases hsp with ⟨rfl, -⟩ | ⟨rfl, -⟩ <;> simp_all
        have hac := hrow ho hs'
        cases q <;> simp_all [allCompared_first]

end

/-! ### Identity -/

lemma Scalar.identical_iff (hs : l.Scalar) (hk : k = .int ∨ k = .float) (hl : l.Every (·.kind ≠ k))
    (hr : r.Every (·.kind ≠ k)) : l.identical r = true ↔ l.compared r = .ok (some .eq) := by
  rw [hs.compared_iff]
  have hmix : ¬(Kind.int ≠ k ∧ Kind.float ≠ k) := by rcases hk with rfl | rfl <;> simp
  cases l <;> cases r
  case int.float => exact absurd ⟨hl, hr⟩ hmix
  case float.int => exact absurd ⟨hr, hl⟩ hmix
  case float.float x y =>
    change (x.toModel.compare y.toModel == some .eq) = true ↔ _
    simp [scalars?]
  all_goals first | exact absurd rfl hs.1 | exact absurd rfl hs.2 | simp [identical, scalars?]

mutual

/-- With numbers of one kind, values that compare equal are identical. -/
lemma identical_iff {k : Kind} (hk : k = .int ∨ k = .float) (l r : Value)
    (hl : l.Every (·.kind ≠ k)) (hr : r.Every (·.kind ≠ k)) :
    l.identical r = true ↔ l.compared r = .ok (some .eq) := by
  cases l with
  | int | float | boolean | string => exact Scalar.identical_iff ⟨nofun, nofun⟩ hk hl hr
  | empty => cases r <;> simp [identical, compared, scalars?]
  | tuple as =>
    cases r with
    | tuple bs =>
      rw [identical, compared, allIdentical_iff hk as bs hl hr]
      by_cases h : as.length = bs.length <;> simp [h]
    | _ => simp [identical, compared, scalars?]

lemma allIdentical_iff {k : Kind} (hk : k = .int ∨ k = .float) (as bs : List Value)
    (has : AllEvery (·.kind ≠ k) as) (hbs : AllEvery (·.kind ≠ k) bs) :
    allIdentical as bs = true ↔ as.length = bs.length ∧ allCompared as bs = .ok (some .eq) := by
  cases as with
  | nil => cases bs <;> simp [allIdentical, allCompared]
  | cons a as =>
    cases bs with
    | nil => simp [allIdentical]
    | cons b bs =>
      rw [allIdentical, Bool.and_eq_true, identical_iff hk a b has.1 hbs.1,
        allIdentical_iff hk as bs has.2 hbs.2]
      by_cases h : a.compared b = .ok (some .eq)
      · simp [h, allCompared_next h]
      · simp [h, allCompared_first h]

end

mutual

/-- A value without NaN compares equal to itself. -/
lemma compared_self (v : Value) (h : v.NaNFree) : v.compared v = .ok (some .eq) := by
  cases v with
  | int | boolean | string => simp [compared, scalars?]
  | float x => simp [compared, scalars?, Real.compare_self (h x rfl)]
  | empty => rfl
  | tuple items =>
    rw [compared, if_pos rfl]
    exact allCompared_self items h

lemma allCompared_self (vs : List Value) (h : (tuple vs).NaNFree) :
    allCompared vs vs = .ok (some .eq) := by
  cases vs with
  | nil => rfl
  | cons v vs => exact (allCompared_next (compared_self v h.1)).trans (allCompared_self vs h.2)

end

/-! ### Equivalence and strict order -/

/-- Equality is an equivalence that tells what is identical, and `<` a strict order of what it does
not tell apart. -/
structure Ordered (a b c : Value) : Prop where
  identical : ∀ same, a.equal b = .ok same → same = a.identical b
  refl : a.equal a = .ok true
  symm : a.equal b = .ok true → b.equal a = .ok true
  trans : a.equal b = .ok true → b.equal c = .ok true → a.equal c = .ok true
  less_trans : order .lt a b = .ok true → order .lt b c = .ok true → order .lt a c = .ok true
  less_left : a.equal b = .ok true → order .lt b c = .ok true → order .lt a c = .ok true
  less_right : order .lt a b = .ok true → b.equal c = .ok true → order .lt a c = .ok true
  irrefl : order .lt a a ≠ .ok true

/-- **Numbers of one kind, and no NaN, make equality an equivalence and `<` a strict order.** -/
theorem unmixed_ordered {a b c : Value} (hu : (tuple [a, b, c]).Unmixed)
    (hn : (tuple [a, b, c]).NaNFree) : Ordered a b c := by
  obtain ⟨k, hk, ha, hb, hc, -⟩ := hu
  have hrow := fun o p => compared_trans (o := o) (p := p) hk a b c ha hb hc
  have hself := compared_self a hn.1
  refine ⟨fun same h => ?_, equal_iff.2 hself, fun h => ?_, ?_, ?_, ?_, ?_,
    fun h => nomatch hself.symm.trans (less_iff.1 h)⟩
  · cases same with
    | true => exact ((identical_iff hk a b ha hb).2 (equal_iff.1 h)).symm
    | false =>
      by_contra hne
      have := equal_iff.2 ((identical_iff hk a b ha hb).1 (by simpa using hne))
      exact nomatch h.symm.trans this
  · rw [equal_iff] at h ⊢
    rw [compared_swap, h]
    rfl
  all_goals
    simp only [equal_iff, less_iff]
    exact fun h h' => hrow _ _ h h' nofun nofun

/-- The first two differ at the second item, the last two inside the third. -/
theorem unmixed_ordered_nested :
    let a := tuple [int 1, string "a", tuple [empty, int 7]]
    let b := tuple [int 1, string "b", tuple [empty, int 7]]
    let c := tuple [int 1, string "b", tuple [empty, int 9]]
    (tuple [a, b, c]).Unmixed ∧ (tuple [a, b, c]).NaNFree ∧ a.equal b = .ok false ∧
      order .lt a b = .ok true ∧ order .lt b c = .ok true ∧ order .lt a c = .ok true := by
  intro a b c
  have hu : (tuple [a, b, c]).Unmixed :=
    ⟨.float, .inr rfl, by simp [a, b, c, Every, AllEvery, kind]⟩
  have hn : (tuple [a, b, c]).NaNFree := by simp [a, b, c, NaNFree, Every, AllEvery]
  have hab : order .lt a b = .ok true := by rfl
  have hbc : order .lt b c = .ok true := by rfl
  exact ⟨hu, hn, by rfl, hab, hbc, (unmixed_ordered hu hn).less_trans hab hbc⟩

end Reckon.Value
