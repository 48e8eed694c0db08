import Reckon.Evaluate.Direct
import Reckon.Proofs.Tree.Replaced

/-!
Evaluations side by side. If on related states the names of a tree stand for the same values and its
calls end alike, then it has the same value or the same error on them, and the states that are left
are related again. A variable may also be replaced by the value that it stands for.
-/

namespace Reckon

open Reckon.Action

variable {σ τ : Type} {R : σ → τ → Prop} {b : Bindings σ} {b' : Bindings τ}

/-- On related states names stand for the same values, and calls end alike. -/
structure Bindings.Relates (R : σ → τ → Prop) (b : Bindings σ) (b' : Bindings τ) : Prop where
  lookup : ∀ {n s t}, R s t → b.lookup n s = b'.lookup n t
  call : ∀ f args, Action.Relates R Eq Eq (b.call f args) (b'.call f args)

/-- The same for the names of one tree, where some variables stand for the values that
they are given. -/
structure Bindings.Agree (R : σ → τ → Prop) (ρ : String → Option Value) (b : Bindings σ)
    (b' : Bindings τ) (t : Tree) : Prop where
  replaced : ∀ {n v s s'}, t.Reads n → ρ n = some v → R s s' → b.lookup n s = some v
  lookup : ∀ {n s s'}, t.Reads n → ρ n = none → R s s' → b.lookup n s = b'.lookup n s'
  call : ∀ {f}, t.Calls f → ∀ args, Action.Relates R Eq Eq (b.call f args) (b'.call f args)

lemma Bindings.Relates.agree (h : b.Relates R b') (t : Tree) : b.Agree R (fun _ => none) b' t :=
  ⟨nofun, fun _ _ hs => h.lookup hs, fun _ => h.call _⟩

variable {ρ : String → Option Value}

lemma Bindings.Agree.part {t u : Tree} {d : Nat} (h : b.Agree R ρ b' t) (hu : t.Lies d u) :
    b.Agree R ρ b' u :=
  ⟨fun hn => h.replaced (hn.of_lies hu), fun hn => h.lookup (hn.of_lies hu),
    fun hf => h.call (hf.of_lies hu)⟩

namespace Evaluate

lemma relates_lift {α : Type} (r : Except Error α) :
    Relates R Eq Eq (lift r : Run σ α) (lift r : Run τ α) := by
  cases r with
  | ok a => exact .pure rfl
  | error e => exact .throw rfl

mutual

/-- Replacing variables by the values that they stand for changes nothing. -/
theorem relates_instantiate (limit : Int) (t : Tree) (h : b.Agree R ρ b' t) (depth : Nat) :
    Relates R Eq Eq (t.value b limit depth) ((t.instantiate ρ).value b' limit depth) := by
  by_cases hd : limit < depth
  · cases t with
    | name n =>
      rw [Tree.instantiate]
      cases ρ n <;> simp only [Option.elim, Tree.value, hd, if_true, throw_bind] <;>
        exact .throw rfl
    | _ => simp only [Tree.instantiate, Tree.value, hd, if_true, throw_bind]; exact .throw rfl
  cases t with
  | literal v => simpa only [Tree.instantiate, Tree.value, hd, if_false] using .pure rfl
  | name n =>
    rw [Tree.instantiate]
    cases hn : ρ n with
    | none =>
      simp only [Option.elim, Tree.value, hd, if_false]
      refine .get fun s s' hs => ?_
      rw [h.lookup ⟨0, .root⟩ hn hs]
      cases b'.lookup n s' with
      | none => exact .throw rfl
      | some v => exact .pure rfl
    | some v =>
      simp only [Option.elim, Tree.value, hd, if_false]
      intro s s' hs
      rw [get_bind, h.replaced ⟨0, .root⟩ hn hs]
      exact .ok rfl hs
  | unary op t =>
    simp only [Tree.instantiate, Tree.value, hd, if_false]
    exact (relates_instantiate limit t (h.part (.operand .root)) (depth + 1)).bind_same fun v =>
      relates_lift _
  | binary op l r =>
    have hr := relates_instantiate limit r (h.part (.right .root))
    simp only [Tree.instantiate, Tree.value, hd, if_false]
    refine (relates_instantiate limit l (h.part (.left .root)) depth).bind_same fun v => ?_
    split
    · refine (relates_lift _).bind_same fun c => ?_
      split
      · exact .pure rfl
      · exact (hr depth).bind_same fun w => (relates_lift _).bind_same fun d => .pure rfl
    · exact (hr (op.rightDepth depth)).bind_same fun w => relates_lift _
  | call f ts =>
    have hts := relates_instantiates limit ts (fun t ht => h.part (.argument .root ht)) (depth + 1)
    simp only [Tree.instantiate, Tree.value, hd, if_false]
    exact hts.bind_same fun vs => h.call ⟨0, ts, .root⟩ vs
  | tuple ts =>
    have hts := relates_instantiates limit ts (fun t ht => h.part (.item .root ht)) depth
    simp only [Tree.instantiate, Tree.value, hd, if_false]
    exact hts.bind_same fun vs => .pure rfl

lemma relates_instantiates (limit : Int) (ts : List Tree) (h : ∀ t ∈ ts, b.Agree R ρ b' t)
    (depth : Nat) :
    Relates R Eq Eq (Tree.values b limit ts depth)
      (Tree.values b' limit (Tree.instantiates ρ ts) depth) := by
  cases ts with
  | nil => exact .pure rfl
  | cons t ts =>
    have hts := relates_instantiates limit ts (fun u hu => h u (List.mem_cons_of_mem _ hu)) depth
    simp only [Tree.instantiates, Tree.values]
    refine (relates_instantiate limit t (h t List.mem_cons_self) depth).bind_same fun v => ?_
    exact hts.bind_same fun vs => .pure rfl

end

lemma relates_value (h : b.Relates R b') (limit : Int) (t : Tree) (depth : Nat) :
    Relates R Eq Eq (t.value b limit depth) (t.value b' limit depth) := by
  have := relates_instantiate limit t (h.agree t) depth
  rwa [Tree.instantiate_eq_self t fun _ _ => rfl] at this

end Evaluate

end Reckon
