import Reckon.Action
import Reckon.Proofs.Text.Digits
import Reckon.Value.Native

/-!
Data that become values. Nothing is lost on the way through data of the host program, and data
become a value unless one of their leaves has none. Of the leaves that have none, the first decides
the error; for an integer that is the overflow, if its digits can be written.
-/

namespace Reckon

/-! ### Values as data -/

mutual

/-- A value is what becomes of its data. -/
lemma Value.toValue_toNative (v : Value) (h : v.WellFormed) : v.toNative.toValue = .ok v := by
  match v with
  | int n => exact if_pos h
  | float x | boolean b | string s | empty => rfl
  | tuple items =>
    rw [toNative, Native.toValue, Value.toValues_toNatives items h]
    rfl

lemma Value.toValues_toNatives (vs : List Value) (h : AllWellFormed vs) :
    Native.toValues (toNatives vs) = .ok vs := by
  match vs with
  | [] => rfl
  | v :: vs =>
    rw [toNatives, Native.toValues, Value.toValue_toNative v h.1, Value.toValues_toNatives vs h.2]
    rfl

end

namespace Native

/-! ### Data in their form as values -/

mutual

/-- The data with tuples for lists and with data for values. -/
def tupled : Native → Native
  | list items | tuple items => tuple (allTupled items)
  | value v => v.toNative
  | x => x

def allTupled : List Native → List Native
  | [] => []
  | x :: xs => x.tupled :: allTupled xs

end

mutual

lemma toNative_toValue (x : Native) {v : Value} (h : x.toValue = .ok v) :
    v.toNative = x.tupled := by
  match x with
  | int n =>
    rw [toValue, Value.ofInt] at h
    split at h <;> cases h
    rfl
  | list items | tuple items =>
    obtain ⟨vs, hvs, rfl⟩ := Action.map_eq_ok h
    rw [Value.toNative, toNatives_toValues items hvs, tupled]
  | nothing | boolean b | float y | string s | value w => cases h; rfl
  | foreign type => cases h

lemma toNatives_toValues (xs : List Native) {vs : List Value} (h : toValues xs = .ok vs) :
    Value.toNatives vs = allTupled xs := by
  match xs with
  | [] => cases h; rfl
  | x :: xs =>
    rw [toValues] at h
    rcases hv : x.toValue with e | v <;> rw [hv] at h
    · cases h
    rcases hvs : toValues xs with e | vs <;> rw [hvs] at h <;> cases h
    rw [Value.toNatives, toNative_toValue x hv, toNatives_toValues xs hvs, allTupled]

end

/-! ### Leaves -/

mutual

/-- What is inside lists and tuples and is none itself, from left to right. -/
def leaves : Native → List Native
  | list items | tuple items => allLeaves items
  | x => [x]

def allLeaves : List Native → List Native
  | [] => []
  | x :: xs => x.leaves ++ allLeaves xs

end

/-- The error of a leaf that has no value. -/
def fault? : Native → Option Error
  | int n => if InRange n then none else some (Value.overflow n)
  | foreign type => some (.type (.unconvertible type))
  | _ => none

/-- The error of a result. -/
def error? {α : Type} : Except Error α → Option Error
  | .ok _ => none
  | .error e => some e

mutual

/-- The first leaf without a value decides the error. -/
lemma error_toValue (x : Native) : error? x.toValue = x.leaves.findSome? fault? := by
  match x with
  | int n =>
    change error? (Value.ofInt n) = [int n].findSome? fault?
    rw [Value.ofInt, List.findSome?_singleton, fault?]
    split <;> rfl
  | list items | tuple items =>
    rw [toValue, leaves, ← error_toValues items]
    cases toValues items <;> rfl
  | nothing | boolean b | float y | string s | value w | foreign type => rfl

lemma error_toValues (xs : List Native) :
    error? (toValues xs) = (allLeaves xs).findSome? fault? := by
  match xs with
  | [] => rfl
  | x :: xs =>
    rw [allLeaves, List.findSome?_append, ← error_toValue x, ← error_toValues xs, toValues]
    rcases x.toValue with e | v
    · rfl
    · cases toValues xs <;> rfl

end

variable {x : Native} {e : Error}

lemma fault?_eq_some : x.fault? = some e ↔
    (∃ n, x = int n ∧ ¬ InRange n ∧ Text.Writable n ∧ e = .arithmetic (.overflow n)) ∨
      (∃ n, x = int n ∧ ¬ Text.Writable n ∧ e = .fault .unwritten) ∨
      ∃ type, x = foreign type ∧ e = .type (.unconvertible type) := by
  cases x with
  | int n =>
    by_cases h : InRange n
    · simp [fault?, h, h.writable]
    · by_cases hw : Text.Writable n <;> simp [fault?, Value.overflow, h, hw, eq_comm]
  | foreign type => simp [fault?, eq_comm]
  | _ => simp [fault?]

lemma fault?_eq_none : x.fault? = none ↔ (∀ n, x = int n → InRange n) ∧
    ∀ type, x ≠ foreign type := by
  cases x <;> simp [fault?]

lemma error?_eq_some {α : Type} {r : Except Error α} : error? r = some e ↔ r = .error e := by
  cases r <;> simp [error?]

lemma error?_eq_none {α : Type} {r : Except Error α} : error? r = none ↔ ∃ a, r = .ok a := by
  cases r <;> simp [error?]

/-- **Values and data.** A value is what becomes of its data. Data become a value exactly if all
integers among their leaves are in range and none is of another type, and the value as data is the
data with tuples for lists and with data for values. Data that become no value fail for the first
leaf that has none: an object of another type for its type, and an integer for its range, which only
an integer of too many digits to be written is not told. -/
theorem toValue_exact (v : Value) (x : Native) :
    (v.WellFormed → v.toNative.toValue = .ok v) ∧
    ((∃ u, x.toValue = .ok u) ↔ (∀ n, int n ∈ x.leaves → InRange n) ∧
      ∀ type, foreign type ∉ x.leaves) ∧
    (∀ u, x.toValue = .ok u → u.toNative = x.tupled) ∧
    ∀ e, x.toValue = .error e ↔ ∃ before leaf behind, x.leaves = before ++ leaf :: behind ∧
      (∀ l ∈ before, l.fault? = none) ∧
      ((∃ n, leaf = int n ∧ ¬ InRange n ∧ Text.Writable n ∧ e = .arithmetic (.overflow n)) ∨
        (∃ n, leaf = int n ∧ ¬ Text.Writable n ∧ e = .fault .unwritten) ∨
        ∃ type, leaf = foreign type ∧ e = .type (.unconvertible type)) := by
  refine ⟨v.toValue_toNative, ?_, fun u hu => toNative_toValue x hu, fun e => ?_⟩
  · rw [← error?_eq_none, error_toValue, List.findSome?_eq_none_iff]
    constructor
    · intro h
      exact ⟨fun n hn => (fault?_eq_none.1 (h _ hn)).1 n rfl,
        fun type ht => (fault?_eq_none.1 (h _ ht)).2 type rfl⟩
    · rintro ⟨hint, hforeign⟩ leaf hleaf
      exact fault?_eq_none.2 ⟨fun n hn => hint n (hn ▸ hleaf),
        fun type ht => hforeign type (ht ▸ hleaf)⟩
  · rw [← error?_eq_some, error_toValue, List.findSome?_eq_some_iff]
    constructor
    · rintro ⟨before, leaf, behind, hleaves, hleaf, hbefore⟩
      exact ⟨before, leaf, behind, hleaves, hbefore, fault?_eq_some.1 hleaf⟩
    · rintro ⟨before, leaf, behind, hleaves, hbefore, hleaf⟩
      exact ⟨before, leaf, behind, hleaves, fault?_eq_some.2 hleaf, hbefore⟩

/-- A value inside lists comes back, and of two leaves without a value the first is the one that
is too large. -/
theorem toValue_exact_nested :
    let v := Value.tuple [.int (-1), .tuple [.empty, .tuple []]]
    let x := list [value v, list [boolean true, int (greatest + 1)], foreign "set"]
    v.WellFormed ∧ v.toNative.toValue = .ok v ∧
      x.toValue = .error (.arithmetic (.overflow (greatest + 1))) := by
  intro v x
  have hv : v.WellFormed := by decide
  have hleaves : x.leaves = [value v, boolean true] ++ int (greatest + 1) :: [foreign "set"] := rfl
  have hwritable : Text.Writable (greatest + 1) :=
    Text.writable_of_lt (k := 19) (by decide) (by decide)
  obtain ⟨hround, -, -, herror⟩ := toValue_exact v x
  refine ⟨hv, hround hv,
    (herror _).2 ⟨_, _, _, hleaves, ?_, .inl ⟨_, rfl, by decide, hwritable, rfl⟩⟩⟩
  simp [fault?]

/-- The least power of ten that is not written is out of range, and no error of
arithmetic says so. -/
theorem toValue_unwritten :
    let n := Int.ofNat (Nat.pow 10 Text.maxDigits)
    ¬ InRange n ∧ ¬ ∃ f, (int n).toValue = .error (.arithmetic f) := by
  intro n
  have hwritable : ¬ Text.Writable n := Text.not_writable (Nat.le_refl _)
  have hrange : ¬ InRange n := fun h => hwritable h.writable
  refine ⟨hrange, ?_⟩
  rintro ⟨f, h⟩
  rw [toValue, Value.ofInt, if_neg hrange, Value.overflow, if_neg hwritable] at h
  cases h

end Native

end Reckon
