import Reckon.Operator.Order
import Reckon.Proofs.Decimal.Order

/-!
The comparisons of two values go together. How two values compare, item by item, is one question,
`compared`: equality and the four orderings answer it, or fail where it has no answer, and it is
answered the other way around for the operands the other way around. Only the unit value, which is
equal to itself and has no place in an order, and tuples of different lengths, which are unequal and
have no place in one either, set equality and order apart.
-/

namespace Reckon.Value

/-! ### Parts -/

mutual

/-- Every part of the value that is no tuple has the property. -/
def Every (P : Value → Prop) : Value → Prop
  | tuple items => AllEvery P items
  | v => P v

def AllEvery (P : Value → Prop) : List Value → Prop
  | [] => True
  | v :: vs => v.Every P ∧ AllEvery P vs

end

/-- No part of the value is NaN. -/
def NaNFree (v : Value) : Prop :=
  v.Every fun u => ∀ x, u = float x → x.isNaN = false

/-! ### How two values compare -/

/-- Why two values have no place in one order. -/
inductive Unlike
  | kinds
  | lengths

mutual

/-- How two values compare, which is not at all if NaN decides. -/
def compared : Value → Value → Except Unlike (Option Ordering)
  | tuple as, tuple bs => if as.length = bs.length then allCompared as bs else .error .lengths
  | empty, empty => .ok (some .eq)
  | l, r => (l.scalars? r).elim (.error .kinds) .ok

/-- The first pair that is not equal decides. -/
def allCompared : List Value → List Value → Except Unlike (Option Ordering)
  | a :: as, b :: bs =>
    match a.compared b with
    | .ok (some .eq) => allCompared as bs
    | o => o
  | _, _ => .ok (some .eq)

end

variable {a b l r : Value} {as bs : List Value} {c : Comparison}

lemma allCompared_next (h : a.compared b = .ok (some .eq)) :
    allCompared (a :: as) (b :: bs) = allCompared as bs := by
  rw [allCompared, h]

lemma allCompared_first (h : a.compared b ≠ .ok (some .eq)) :
    allCompared (a :: as) (b :: bs) = a.compared b := by
  rw [allCompared]
  split
  · next h' => exact absurd h' h
  · rfl

lemma scalars?_swap (l r : Value) : r.scalars? l = (l.scalars? r).map (·.map .swap) := by
  cases l <;> cases r <;> try rfl
  case float.float x y => exact congrArg some (Real.compare_swap x y)
  case int.float m y => exact congrArg some (Real.compare_swap _ y)
  case float.int x n => exact congrArg some (Real.compare_swap x _)
  all_goals exact congrArg (fun o => some (some o)) Std.OrientedCmp.eq_swap

mutual

/-- The other way around the values compare the other way around. -/
lemma compared_swap (l r : Value) : r.compared l = (l.compared r).map (·.map .swap) := by
  cases l <;> cases r <;> simp only [compared]
  case tuple.tuple as bs =>
    by_cases h : as.length = bs.length
    · rw [if_pos h, if_pos h.symm, allCompared_swap as bs]
    · rw [if_neg h, if_neg (Ne.symm h)]
      rfl
  case empty.empty => rfl
  all_goals
    rw [scalars?_swap]
    generalize scalars? _ _ = o
    cases o <;> rfl

lemma allCompared_swap (as bs : List Value) :
    allCompared bs as = (allCompared as bs).map (·.map .swap) := by
  cases as with
  | nil => cases bs <;> simp [allCompared, Except.map]
  | cons a as =>
    cases bs with
    | nil => simp [allCompared, Except.map]
    | cons b bs =>
      have hab := compared_swap a b
      by_cases h : a.compared b = .ok (some .eq)
      · rw [allCompared_next h, allCompared_next (by rw [hab, h]; rfl), allCompared_swap as bs]
      · have h' : b.compared a ≠ .ok (some .eq) := by
          rw [hab]
          revert h
          rcases a.compared b with _ | _ | _ | _ | _ <;> simp [Except.map]
        rw [allCompared_first h, allCompared_first h', hab]

end

lemma scalars?_ne (hl : l.NaNFree) (hr : r.NaNFree) : l.scalars? r ≠ some none := by
  have hn : ∀ {x y : Float}, x.isNaN = false → y.isNaN = false →
      x.toModel.compare y.toModel ≠ none := by
    intro x y hx hy h
    rcases Real.compare_eq_none.1 h with h | h
    · rw [hx] at h; cases h
    · rw [hy] at h; cases h
  cases l <;> cases r <;> simp only [scalars?, ne_eq, Option.some.injEq, reduceCtorEq,
    not_false_eq_true]
  case float.float x y => exact hn (hl x rfl) (hr y rfl)
  case int.float m y => exact hn (Real.isNaN_ofInt m) (hr y rfl)
  case float.int x n => exact hn (hl x rfl) (Real.isNaN_ofInt n)

mutual

/-- Values without NaN compare, if they have a place in one order. -/
lemma compared_ne (l r : Value) (hl : l.NaNFree) (hr : r.NaNFree) : l.compared r ≠ .ok none := by
  cases l <;> cases r <;> simp only [compared]
  case tuple.tuple as bs =>
    split
    · exact allCompared_ne as bs hl hr
    · exact nofun
  case empty.empty => exact nofun
  all_goals
    have h := scalars?_ne hl hr
    revert h
    generalize scalars? _ _ = o
    rcases o with _ | _ | _ <;> simp

lemma allCompared_ne (as bs : List Value) (has : (tuple as).NaNFree) (hbs : (tuple bs).NaNFree) :
    allCompared as bs ≠ .ok none := by
  cases as with
  | nil => simp [allCompared]
  | cons a as =>
    cases bs with
    | nil => simp [allCompared]
    | cons b bs =>
      by_cases h : a.compared b = .ok (some .eq)
      · rw [allCompared_next h]
        exact allCompared_ne as bs has.2 hbs.2
      · rw [allCompared_first h]
        exact compared_ne a b has.1 hbs.1

end

/-! ### Equality and order by comparison -/

/-- The outcome of equality that goes with a comparison. -/
def EqualAs (res : Except Error Bool) : Except Unlike (Option Ordering) → Prop
  | .ok o => res = .ok (o = some .eq)
  | .error .lengths => res = .ok false
  | .error .kinds => ∃ f, res = .error (.type f)

/-- The outcome of an ordering that goes with a comparison. -/
def OrderAs (c : Comparison) (res : Except Error Bool) : Except Unlike (Option Ordering) → Prop
  | .ok o => res = .ok (c.holds o)
  | .error _ => ∃ f, res = .error (.type f)

variable {res : Except Error Bool} {o : Except Unlike (Option Ordering)}

lemma EqualAs.true_iff (h : EqualAs res o) : res = .ok true ↔ o = .ok (some .eq) := by
  rcases o with (_ | _) | o
  · obtain ⟨f, rfl⟩ := h
    exact ⟨nofun, nofun⟩
  · obtain rfl := h
    exact ⟨nofun, nofun⟩
  · obtain rfl := h
    simp

/-- Where equality fails, so does an ordering. -/
lemma EqualAs.orderAs {r : Error} (h : EqualAs (.error r) o) : OrderAs c (.error r) o := by
  rcases o with (_ | _) | o
  · exact h
  · cases h
  · cases h

lemma allEqual_next (h : a.equal b = .ok true) : allEqual (a :: as) (b :: bs) = allEqual as bs := by
  rw [allEqual, h]
  rfl

lemma allEqual_first (h : a.equal b ≠ .ok true) : allEqual (a :: as) (b :: bs) = a.equal b := by
  rw [allEqual]
  rcases he : a.equal b with r | _ | _
  · rfl
  · rfl
  · exact absurd he h

lemma orderFirst_cons (c : Comparison) (a b : Value) (as bs : List Value) :
    orderFirst c (a :: as) (b :: bs) =
      a.equal b >>= fun e => if e then orderFirst c as bs else order c a b := by
  rw [orderFirst]

mutual

lemma equal_as (l r : Value) : EqualAs (l.equal r) (l.compared r) := by
  cases l <;> cases r <;> simp only [compared, equal]
  case tuple.tuple as bs =>
    by_cases h : as.length = bs.length
    · rw [if_pos h, if_pos h]
      exact allEqual_as as bs
    · rw [if_neg h, if_neg h]
      rfl
  case empty.empty => rfl
  all_goals
    generalize scalars? _ _ = o
    cases o with
    | none => exact ⟨_, rfl⟩
    | some o => rfl

lemma allEqual_as (as bs : List Value) : EqualAs (allEqual as bs) (allCompared as bs) := by
  cases as with
  | nil => simp [allEqual, allCompared, EqualAs]
  | cons a as =>
    cases bs with
    | nil => simp [allEqual, allCompared, EqualAs]
    | cons b bs =>
      have hab := equal_as a b
      by_cases h : a.compared b = .ok (some .eq)
      · rw [allCompared_next h, allEqual_next (hab.true_iff.2 h)]
        exact allEqual_as as bs
      · rw [allCompared_first h, allEqual_first (mt hab.true_iff.1 h)]
        exact hab

end

mutual

/-- An ordering goes by how the values compare, but for two unit values, which have no place
in an order. -/
lemma order_as (c : Comparison) (l r : Value) (h : ¬(l = empty ∧ r = empty)) :
    OrderAs c (order c l r) (l.compared r) := by
  cases l <;> cases r <;> simp only [compared, order]
  case tuple.tuple as bs =>
    by_cases h : as.length = bs.length
    · rw [if_pos h, if_pos h]
      exact orderFirst_as c as bs
    · rw [if_neg h, if_neg h]
      exact ⟨_, rfl⟩
  case empty.empty => exact absurd ⟨rfl, rfl⟩ h
  all_goals
    generalize scalars? _ _ = o
    cases o with
    | none => exact ⟨_, rfl⟩
    | some o => rfl

lemma orderFirst_as (c : Comparison) (as bs : List Value) :
    OrderAs c (orderFirst c as bs) (allCompared as bs) := by
  cases as with
  | nil => simp [orderFirst, allCompared, OrderAs]
  | cons a as =>
    cases bs with
    | nil => simp [orderFirst, allCompared, OrderAs]
    | cons b bs =>
      have hab := equal_as a b
      rw [orderFirst_cons]
      by_cases h : a.compared b = .ok (some .eq)
      · rw [allCompared_next h, hab.true_iff.2 h]
        exact orderFirst_as c as bs
      · rw [allCompared_first h]
        rcases he : a.equal b with r | _ | _
        · exact (he ▸ hab).orderAs
        · exact order_as c a b (by rintro ⟨rfl, rfl⟩; exact h rfl)
        · exact absurd (hab.true_iff.1 he) h

end

/-! ### Coherence -/

/-- What the comparison operators answer, where the left value is less, the same or greater, and no
two of these. -/
structure Coherent (l r : Value) (less same greater : Bool) : Prop where
  equal : l.equal r = .ok same
  lt : order .lt l r = .ok less
  le : order .le l r = .ok (less || same)
  gt : order .gt l r = .ok greater
  ge : order .ge l r = .ok (greater || same)
  alone : [less, same, greater].count true ≤ 1

/-- The operators go by one comparison. -/
lemma Coherent.of_compared {o : Option Ordering} (h : l.compared r = .ok o)
    (hne : ¬(l = empty ∧ r = empty)) :
    Coherent l r (o = some .lt) (o = some .eq) (o = some .gt) := by
  have he := equal_as l r
  have ho := fun c => order_as c l r hne
  rw [h] at he ho
  refine ⟨he, (ho .lt).trans ?_, (ho .le).trans ?_, (ho .gt).trans ?_, (ho .ge).trans ?_, ?_⟩
  all_goals rcases o with _ | _ | _ | _ <;> simp [Comparison.holds]

lemma swap_eq (o : Option Ordering) (p : Ordering) :
    (o.map .swap = some p) = (o = some p.swap) := by
  rcases o with _ | _ | _ | _ <;> cases p <;> simp

/-- Equality does not depend on the order of the operands. -/
lemma equal_swap (l r : Value) :
    (∃ same, l.equal r = .ok same ∧ r.equal l = .ok same) ∨
      ∃ f g, l.equal r = .error (.type f) ∧ r.equal l = .error (.type g) := by
  have he := equal_as l r
  have hr := equal_as r l
  rw [compared_swap l r] at hr
  rcases hc : l.compared r with (_ | _) | o <;> rw [hc] at he hr
  · obtain ⟨f, hf⟩ := he
    obtain ⟨g, hg⟩ := hr
    exact .inr ⟨f, g, hf, hg⟩
  · exact .inl ⟨false, he, hr⟩
  · refine .inl ⟨_, he, ?_⟩
    simp only [show r.equal l = _ from hr, swap_eq, Ordering.swap_eq]

/-- **The comparison operators are coherent.** Both ways around equality has the same answer or a
wrong kind. The orderings fail together, both ways around, or answer together; then equality answers
too, and the answers are those for a left value that is less, the same or greater, never two of
these, and exactly one where there is no NaN. -/
theorem comparisons_coherent (l r : Value) :
    ((∃ same, l.equal r = .ok same ∧ r.equal l = .ok same) ∨
      ∃ f g, l.equal r = .error (.type f) ∧ r.equal l = .error (.type g)) ∧
    ((∀ c, ∃ f g, order c l r = .error (.type f) ∧ order c r l = .error (.type g)) ∨
      ∃ less same greater, Coherent l r less same greater ∧ Coherent r l greater same less ∧
        (l.NaNFree → r.NaNFree → [less, same, greater].count true = 1)) := by
  refine ⟨equal_swap l r, ?_⟩
  by_cases hne : l = empty ∧ r = empty
  · obtain ⟨rfl, rfl⟩ := hne
    exact .inl fun c => ⟨_, _, rfl, rfl⟩
  have hne' : ¬(r = empty ∧ l = empty) := fun h => hne h.symm
  have hs := compared_swap l r
  cases h : l.compared r with
  | error u =>
    refine .inl fun c => ?_
    have ho := order_as c l r hne
    have ho' := order_as c r l hne'
    rw [hs, h] at ho'
    rw [h] at ho
    obtain ⟨f, hf⟩ := ho
    obtain ⟨g, hg⟩ := ho'
    exact ⟨f, g, hf, hg⟩
  | ok o =>
    rw [h] at hs
    have hlr := Coherent.of_compared h hne
    have hrl := Coherent.of_compared hs hne'
    simp only [swap_eq, Ordering.swap_lt, Ordering.swap_eq, Ordering.swap_gt] at hrl
    refine .inr ⟨_, _, _, hlr, hrl, fun hl hr => ?_⟩
    have hn := h ▸ compared_ne l r hl hr
    rcases o with _ | _ | _ | _
    · exact absurd rfl hn
    all_goals rfl

theorem comparisons_coherent_mixed :
    let l := tuple [int 1, tuple [empty, string "b"]]
    let r := tuple [float 1.0, tuple [empty, string "a"]]
    l.NaNFree ∧ r.NaNFree ∧ ∃ less same greater, Coherent l r less same greater ∧
      Coherent r l greater same less ∧ [less, same, greater].count true = 1 := by
  intro l r
  have hl : l.NaNFree := ⟨nofun, ⟨nofun, nofun, trivial⟩, trivial⟩
  have hr : r.NaNFree := ⟨fun x h => by cases h; decide, ⟨nofun, nofun, trivial⟩, trivial⟩
  have hlt : order .lt l r = .ok false := by rfl
  have hall := (comparisons_coherent l r).2.resolve_left fun h => by
    obtain ⟨f, g, hf, -⟩ := h .lt
    exact nomatch hlt.symm.trans hf
  obtain ⟨less, same, greater, h, h', hone⟩ := hall
  exact ⟨hl, hr, less, same, greater, h, h', hone hl hr⟩

end Reckon.Value
