import Reckon.Proofs.Evaluate.Rounds
import Reckon.Proofs.Operator.Errors
import Reckon.Proofs.Tree.Parts

/-!
Trees that lie within a limit of depth. On such a tree the machine never comes to a node that is too
deep for it, whatever the bindings do: what a piece of work schedules lies as deep in the tree as it
says. An error about the depth then comes from a function that was called.
-/

namespace Reckon

namespace Tree

mutual

/-- Every node of the tree lies within the limit if the tree lies at the given depth. -/
def Within (limit : Int) : Tree → Nat → Prop
  | literal _, depth | name _, depth => depth ≤ limit
  | unary _ t, depth => depth ≤ limit ∧ t.Within limit (depth + 1)
  | binary op l r, depth =>
    depth ≤ limit ∧ l.Within limit depth ∧ r.Within limit (op.rightDepth depth)
  | call _ ts, depth => depth ≤ limit ∧ AllWithin limit ts (depth + 1)
  | tuple ts, depth => depth ≤ limit ∧ AllWithin limit ts depth

def AllWithin (limit : Int) : List Tree → Nat → Prop
  | [], _ => True
  | t :: ts, depth => t.Within limit depth ∧ AllWithin limit ts depth

end

variable {limit : Int} {depth : Nat}

lemma Within.le {t : Tree} (h : t.Within limit depth) : depth ≤ limit := by
  cases t with
  | literal | name => exact h
  | unary | binary | call | tuple => exact h.1

lemma rightDepth_mono (op : Binary) {d depth : Nat} (h : d ≤ depth) :
    op.rightDepth d ≤ op.rightDepth depth := by
  rw [Binary.rightDepth, Binary.rightDepth]
  split <;> omega

mutual

/-- A tree that lies higher, or within a larger limit, lies within the limit as well. -/
lemma Within.mono {limit' : Int} (hl : limit ≤ limit') {t : Tree} {d depth : Nat}
    (hd : d ≤ depth) (h : t.Within limit depth) : t.Within limit' d := by
  have hle : d ≤ limit' := by
    have := h.le
    omega
  cases t with
  | literal | name => exact hle
  | unary op t => exact ⟨hle, h.2.mono hl (by omega)⟩
  | binary op l r => exact ⟨hle, h.2.1.mono hl hd, h.2.2.mono hl (rightDepth_mono op hd)⟩
  | call f ts => exact ⟨hle, AllWithin.mono hl (by omega) h.2⟩
  | tuple ts => exact ⟨hle, AllWithin.mono hl hd h.2⟩

lemma AllWithin.mono {limit' : Int} (hl : limit ≤ limit') {ts : List Tree} {d depth : Nat}
    (hd : d ≤ depth) (h : AllWithin limit ts depth) : AllWithin limit' ts d := by
  cases ts with
  | nil => trivial
  | cons t ts => exact ⟨h.1.mono hl hd, AllWithin.mono hl hd h.2⟩

end

lemma AllWithin.mem {ts : List Tree} {u : Tree} (h : AllWithin limit ts depth) (hu : u ∈ ts) :
    u.Within limit depth := by
  induction ts with
  | nil => cases hu
  | cons t ts ih =>
    rcases List.mem_cons.1 hu with rfl | hu
    · exact h.1
    · exact ih h.2 hu

/-- A node of a tree within a limit lies within it at its own depth. -/
lemma Within.lies {t u : Tree} {d : Nat} (ht : t.Within limit 0) (h : t.Lies d u) :
    u.Within limit d := by
  induction h with
  | root => exact ht
  | operand _ ih => exact ih.2
  | left _ ih => exact ih.2.1
  | right _ ih => exact ih.2.2
  | argument _ hu ih => exact AllWithin.mem ih.2 hu
  | item _ hu ih => exact AllWithin.mem ih.2 hu

end Tree

namespace Evaluate

open Reckon.Action

variable {σ : Type} {b : Bindings σ} {limit : Int} {t : Tree} {st : σ}

/-- The piece of work belongs to a node of the tree. -/
def Step.Of (t : Tree) : Step → Prop
  | eval u depth => t.Lies depth u
  | left _ r depth => t.Lies depth r
  | call f _ => t.Calls f
  | _ => True

lemma of_evals {ts : List Tree} {depth : Nat} (h : ∀ u ∈ ts, t.Lies depth u) :
    ∀ s ∈ evals depth ts, s.Of t := by
  intro s hs
  obtain ⟨u, hu, rfl⟩ := List.mem_map.1 hs
  exact h u hu

lemma of_leaves {s : Step} {values values' : List Value} {more : List Step}
    (h : Leaves s values more values') (hs : s.Of t) : ∀ s' ∈ more, s'.Of t := by
  cases h with
  | value => exact nofun
  | unary => simpa [Step.Of] using Tree.Lies.operand hs
  | logical hop =>
    have hr := Tree.Lies.right hs
    rw [Binary.rightDepth_of_left (Binary.left_of_logical hop)] at hr
    simpa [Step.Of] using ⟨Tree.Lies.left hs, hr⟩
  | binary => simpa [Step.Of] using ⟨Tree.Lies.left hs, Tree.Lies.right hs⟩
  | call =>
    refine List.forall_mem_append.2 ⟨of_evals fun u hu => .argument hs hu, ?_⟩
    simpa [Step.Of] using ⟨_, _, hs⟩
  | tuple =>
    refine List.forall_mem_append.2 ⟨of_evals fun u hu => .item hs hu, ?_⟩
    simp [Step.Of]
  | right => simpa [Step.Of] using hs

/-- All work of a run belongs to nodes of its tree. -/
lemma Rounds.of {n : Nat} {m : Machine σ} (h : Rounds b limit n (.start t st) m) :
    ∀ s ∈ m.work, s.Of t := by
  refine h.keeps (P := fun work _ => ∀ s ∈ work, s.Of t) (fun hl hw => ?_) ?_
  · obtain ⟨hs, hw⟩ := List.forall_mem_cons.1 hw
    exact List.forall_mem_append.2 ⟨of_leaves hl hs, hw⟩
  · simpa [Machine.start, Step.Of] using .root

/-- What the machine comes to are nodes of the tree, at their depths. -/
lemma Rounds.lies {n d : Nat} {u : Tree} {work : List Step} {values : List Value} {st' : σ}
    (h : Rounds b limit n (.start t st) ⟨.eval u d :: work, values, st'⟩) : t.Lies d u :=
  h.of _ List.mem_cons_self

/-- The machine has come to a node beyond the limit. -/
def Machine.TooDeep (limit : Int) (m : Machine σ) : Prop :=
  ∃ t depth work, m.work = .eval t depth :: work ∧ limit < depth

/-- With room for every node the machine comes to no node beyond the limit. -/
lemma Rounds.not_beyond {high : Int} {n : Nat} {m : Machine σ}
    (hroom : ∀ d u, t.Lies d u → d ≤ limit) (h : Rounds b high n (.start t st) m) :
    ¬ m.TooDeep limit := by
  rintro ⟨u, depth, work, hw, hd⟩
  have hu : t.Lies depth u := h.of (.eval u depth) (hw ▸ List.mem_cons_self)
  have := hroom depth u hu
  omega

lemma Rounds.not_tooDeep {n : Nat} {m : Machine σ} (ht : t.Within limit 0)
    (h : Rounds b limit n (.start t st) m) : ¬ m.TooDeep limit :=
  h.not_beyond fun _ _ hu => (ht.lies hu).le

/-! ### Errors -/

/-- Why a piece of work ends with an error. -/
inductive Fails (b : Bindings σ) (limit : Int) : Step → List Value → σ → Error → Prop
  | deep {t values st} {depth : Nat} (h : limit < depth) :
    Fails b limit (.eval t depth) values st (.depth limit)
  | unbound {n depth values st} (h : b.lookup n st = none) :
    Fails b limit (.eval (.name n) depth) values st (.lookup .variable n)
  | operands {s values st e} (h : e.OfOperands) : Fails b limit s values st e
  | unsupplied {s values st} (h : values.length < s.pops) :
    Fails b limit s values st (.fault .operands)
  | call {f count values args rest st e st'} (ht : take count values = some (args, rest))
    (h : b.call f args st = .error e st') : Fails b limit (.call f count) values st e

lemma lift_eq_error {α : Type} {r : Except Error α} {e : Error} {st st' : σ} :
    (lift r : Run σ α) st = .error e st' ↔ r = .error e ∧ st = st' := by
  cases r with
  | error e => simp [lift, throw_apply]
  | ok b => simp [lift, pure_apply]

/-- An error from the operands is the only one in what applies an operator. -/
lemma operands_of_lift {α β : Type} {r : Except Error α} (hr : Operates r) {f : α → Run σ β}
    (hf : ∀ a st e st', f a st ≠ .error e st') {st st' : σ} {e : Error}
    (h : (lift r >>= f) st = .error e st') : e.OfOperands := by
  rcases bind_eq_error.1 h with h | ⟨a, st₁, -, h⟩
  · exact hr e (lift_eq_error.1 h).1
  · exact absurd h (hf a st₁ e st')

lemma fails_step {s : Step} {values : List Value} {st st' : σ} {e : Error}
    (h : step b limit s values st = .error e st') : Fails b limit s values st e := by
  cases s with
  | eval t depth =>
    simp only [step] at h
    split at h
    · next hd => cases h; exact .deep hd
    cases t with
    | name n =>
      rcases bind_eq_error.1 h with h | ⟨st₁, _, h₁, h⟩
      · cases h
      cases h₁
      cases hn : b.lookup n st with
      | none => rw [hn] at h; cases h; exact .unbound hn
      | some v => rw [hn] at h; cases h
    | binary op l r => simp only at h; split at h <;> cases h
    | literal | unary | call | tuple => cases h
  | unary op =>
    cases values with
    | nil => cases h; exact .unsupplied (by simp [Step.pops])
    | cons v values =>
      exact .operands (operands_of_lift (operates_unary op v) (fun _ _ _ _ h => by cases h) h)
  | binary op =>
    rcases values with _ | ⟨r, _ | ⟨l, values⟩⟩
    · cases h; exact .unsupplied (by simp [Step.pops])
    · cases h; exact .unsupplied (by simp [Step.pops])
    · exact .operands (operands_of_lift (operates_binary op l r) (fun _ _ _ _ h => by cases h) h)
  | left op r depth =>
    cases values with
    | nil => cases h; exact .unsupplied (by simp [Step.pops])
    | cons v values =>
      refine .operands (operands_of_lift (operates_truth op v) (fun c st e st' => ?_) h)
      split <;> exact fun h => by cases h
  | right op =>
    cases values with
    | nil => cases h; exact .unsupplied (by simp [Step.pops])
    | cons v values =>
      exact .operands (operands_of_lift (operates_truth op v) (fun _ _ _ _ h => by cases h) h)
  | call f count =>
    simp only [step] at h
    cases htake : take count values with
    | none =>
      rw [htake] at h; cases h
      exact .unsupplied (take_eq_none.1 htake)
    | some taken =>
      rw [htake] at h
      rcases bind_eq_error.1 h with h | ⟨v, st₁, -, h⟩
      · exact .call htake h
      · cases h
  | tuple count =>
    simp only [step] at h
    cases htake : take count values with
    | none =>
      rw [htake] at h; cases h
      exact .unsupplied (take_eq_none.1 htake)
    | some taken => rw [htake] at h; cases h

/-- A run that ends with an error comes to a piece of work that fails with it. -/
lemma exists_fails {t : Tree} {st st' : σ} {e : Error} (h : t.evaluate b limit st = .error e st') :
    ∃ n s work values st₁, Rounds b limit n (.start t st) ⟨s :: work, values, st₁⟩ ∧
      Fails b limit s values st₁ e := by
  obtain ⟨n, m, hm, hend⟩ : ∃ n m, Rounds b limit n (.start t st) m ∧
      Ends b limit m (t.evaluate b limit st) := exists_ends (by simp [Settles, Step.pops])
  rw [h] at hend
  cases hend with
  | error hs => exact ⟨n, _, _, _, _, hm, fails_step hs⟩

/-- The machine never comes to a node of the tree beyond the limit, and an error about the depth is
that of a function which it calls. -/
structure Unhindered (b : Bindings σ) (limit : Int) (t : Tree) (st : σ) : Prop where
  never : ∀ n m, Rounds b limit n (.start t st) m → ¬ m.TooDeep limit
  called : ∀ limit' st', t.evaluate b limit st = .error (.depth limit') st' →
    ∃ n f count work values args rest st₁ st₂,
      Rounds b limit n (.start t st) ⟨.call f count :: work, values, st₁⟩ ∧
      take count values = some (args, rest) ∧ b.call f args st₁ = .error (.depth limit') st₂

theorem unhindered (b : Bindings σ) {t : Tree} (ht : t.Within limit 0) (st : σ) :
    Unhindered b limit t st := by
  refine ⟨fun n m h => h.not_tooDeep ht, fun limit' st' h => ?_⟩
  obtain ⟨n, s, work, values, st₁, hr, hf⟩ := exists_fails h
  generalize he : Error.depth limit' = e at hf
  cases hf with
  | deep hd => exact absurd ⟨_, _, _, rfl, hd⟩ (hr.not_tooDeep ht)
  | unbound => cases he
  | operands hop => subst he; cases hop
  | unsupplied => cases he
  | call htake hcall => subst he; exact ⟨n, _, _, work, values, _, _, st₁, _, hr, htake, hcall⟩

end Evaluate

end Reckon
