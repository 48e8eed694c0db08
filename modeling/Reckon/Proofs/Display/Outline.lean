import Mathlib.Logic.Function.Iterate
import Reckon.Display.Outline

/-!
An outline grown on a plot is the outline of the tree. While it grows, every pending node has a
shoot of its own, labelled and still without branches, and every shoot but the first is a branch of
one shoot (`Tended`). A shoot whose node is no longer pending never changes again, so each one
becomes the outline of its node, in whatever order the nodes are visited.
-/

namespace Reckon

/-- What the numbers of children lead to, one below the other. -/
def follow {α : Type} (children : α → List α) : List Nat → α → Option α
  | [], a => some a
  | i :: path, a => (children a)[i]?.bind (follow children path)

lemma follow_map {α β : Type} {children : α → List α} {branches : β → List β} {f : α → β}
    (h : ∀ a, branches (f a) = (children a).map f) (path : List Nat) (a : α) :
    follow branches path (f a) = (follow children path a).map f := by
  induction path generalizing a with
  | nil => rfl
  | cons i path ih =>
    rw [follow, follow, h, List.getElem?_map]
    cases (children a)[i]? with
    | none => rfl
    | some b => exact ih b

namespace Tree

mutual

/-- Depth and caption of every node, a node before its children. -/
def preorder (depth : Nat) : Tree → List (Nat × String)
  | literal v => [(depth, caption (literal v))]
  | name n => [(depth, caption (name n))]
  | unary op t => (depth, caption (unary op t)) :: t.preorder (depth + 1)
  | binary op l r =>
    (depth, caption (binary op l r)) :: (l.preorder (depth + 1) ++ r.preorder (depth + 1))
  | call f ts => (depth, caption (call f ts)) :: preorders (depth + 1) ts
  | tuple ts => (depth, caption (tuple ts)) :: preorders (depth + 1) ts

def preorders (depth : Nat) : List Tree → List (Nat × String)
  | [] => []
  | t :: ts => t.preorder depth ++ preorders depth ts

end

lemma outlines_eq (ts : List Tree) : outlines ts = ts.map outline := by
  induction ts with
  | nil => rfl
  | cons t ts ih => rw [outlines, ih, List.map_cons]

lemma size_le_of_mem {t : Tree} {ts : List Tree} (h : t ∈ ts) : t.size ≤ sizes ts := by
  induction ts with
  | nil => cases h
  | cons u ts ih =>
    rw [sizes]
    rcases List.mem_cons.1 h with rfl | h
    · exact Nat.le_add_right _ _
    · exact Nat.le_trans (ih h) (Nat.le_add_left _ _)

/-- At every node the outline is the caption over the outlines of the children. -/
lemma outline_eq (t : Tree) : t.outline = .node t.caption (t.children.map outline) := by
  cases t with
  | call f ts | tuple ts => rw [outline, children, outlines_eq]
  | _ => rfl

end Tree

namespace Display

namespace Branch

def label : Branch → String
  | node label _ => label

def branches : Branch → List Branch
  | node _ branches => branches

mutual

/-- Depth and label of every branch, a branch before those below it. -/
def preorder (depth : Nat) : Branch → List (Nat × String)
  | node label branches => (depth, label) :: preorders (depth + 1) branches

def preorders (depth : Nat) : List Branch → List (Nat × String)
  | [] => []
  | b :: bs => b.preorder depth ++ preorders depth bs

end

mutual

lemma preorder_outline (depth : Nat) (t : Tree) : t.outline.preorder depth = t.preorder depth := by
  match t with
  | .literal v | .name n => rfl
  | .unary op t =>
    rw [Tree.outline, preorder, preorders, preorders, preorder_outline (depth + 1) t,
      List.append_nil, Tree.preorder]
  | .binary op l r =>
    rw [Tree.outline, preorder, preorders, preorders, preorders, preorder_outline (depth + 1) l,
      preorder_outline (depth + 1) r, List.append_nil, Tree.preorder]
  | .call f ts | .tuple ts =>
    rw [Tree.outline, preorder, preorders_outlines (depth + 1) ts, Tree.preorder]

lemma preorders_outlines (depth : Nat) (ts : List Tree) :
    preorders depth (Tree.outlines ts) = Tree.preorders depth ts := by
  match ts with
  | [] => rfl
  | t :: ts =>
    rw [Tree.outlines, preorders, preorder_outline depth t, preorders_outlines depth ts,
      Tree.preorders]

end

end Branch

/-! ### Planting -/

/-- The numbers of all branches, shoot by shoot. -/
def Plot.numbers (p : Plot) : List Nat :=
  p.shoots.toList.flatMap Shoot.branches

section

variable {p : Plot} {i j : Nat} {label : String} {s : Shoot} {t : Tree} {ts : List Tree}
  {pending : List (Nat × Tree)}

lemma size_plant : (p.plant i label).shoots.size = p.shoots.size + 1 := by
  simp [Plot.plant]

lemma plant_new : (p.plant i label).shoots[p.shoots.size]? = some ⟨label, []⟩ := by
  simp only [Plot.plant, Array.getElem?_push, Array.size_modify, if_true]

lemma plant_parent (h : p.shoots[i]? = some s) :
    (p.plant i label).shoots[i]? = some { s with branches := s.branches ++ [p.shoots.size] } := by
  have hne : i ≠ p.shoots.size := Nat.ne_of_lt (Array.getElem?_eq_some_iff.1 h).1
  simp only [Plot.plant, Array.getElem?_push, Array.size_modify, hne, if_false,
    Array.getElem?_modify, if_true, h, Option.map_some]

/-- The other shoots stay as they are. -/
lemma plant_other (hj : j < p.shoots.size) (hij : i ≠ j) :
    (p.plant i label).shoots[j]? = p.shoots[j]? := by
  have hne : j ≠ p.shoots.size := Nat.ne_of_lt hj
  simp [Plot.plant, Array.getElem?_push, Array.getElem?_modify, hne, hij]

lemma branches_modify {l : List Shoot} (hi : i < l.length) (n : Nat) :
    ((l.modify i fun s => { s with branches := s.branches ++ [n] }).flatMap Shoot.branches).Perm
      (l.flatMap Shoot.branches ++ [n]) := by
  induction l generalizing i with
  | nil => cases hi
  | cons s l ih =>
    cases i with
    | zero =>
      rw [List.modify_zero_cons, List.flatMap_cons, List.flatMap_cons, List.append_assoc,
        List.append_assoc]
      exact (List.perm_append_comm).append_left _
    | succ i =>
      rw [List.modify_succ_cons, List.flatMap_cons, List.flatMap_cons, List.append_assoc]
      exact (ih (Nat.lt_of_succ_lt_succ hi)).append_left _

/-- One number is new, that of the new shoot. -/
lemma numbers_plant (hi : i < p.shoots.size) :
    (p.plant i label).numbers.Perm (p.numbers ++ [p.shoots.size]) := by
  simpa [Plot.numbers, Plot.plant] using branches_modify (l := p.shoots.toList) hi p.shoots.size

lemma size_plantAll : (plantAll i ts p pending).1.shoots.size = p.shoots.size + ts.length := by
  induction ts generalizing p pending with
  | nil => rfl
  | cons t ts ih =>
    rw [plantAll, ih, size_plant, List.length_cons, Nat.add_right_comm, Nat.add_assoc]

/-- The children are pending with their new numbers, the last one on top. -/
lemma pending_plantAll :
    (plantAll i ts p pending).2 = ((List.range' p.shoots.size ts.length).zip ts).reverse ++
      pending := by
  induction ts generalizing p pending with
  | nil => rfl
  | cons t ts ih => simp [plantAll, ih, size_plant, List.range'_succ]

lemma plantAll_other (hj : j < p.shoots.size) (hij : i ≠ j) :
    (plantAll i ts p pending).1.shoots[j]? = p.shoots[j]? := by
  induction ts generalizing p pending with
  | nil => rfl
  | cons t ts ih =>
    rw [plantAll, ih (by rw [size_plant]; omega), plant_other hj hij]

/-- The children become branches in their order. -/
lemma plantAll_parent (h : p.shoots[i]? = some s) :
    (plantAll i ts p pending).1.shoots[i]? =
      some { s with branches := s.branches ++ List.range' p.shoots.size ts.length } := by
  induction ts generalizing p s pending with
  | nil => simpa [plantAll] using h
  | cons t ts ih =>
    rw [plantAll, ih (plant_parent h), size_plant, List.append_assoc, List.singleton_append,
      List.length_cons, List.range'_succ]

/-! ### While it grows -/

/-- Every pending node has a shoot of its own, labelled and still without branches, and every shoot
but the first is a branch of one shoot. -/
structure Tended (p : Plot) (pending : List (Nat × Tree)) : Prop where
  bare : ∀ q ∈ pending, p.shoots[q.1]? = some ⟨q.2.caption, []⟩
  distinct : (pending.map Prod.fst).Nodup
  once : (0 :: p.numbers).Perm (List.range p.shoots.size)

lemma Tended.lt (h : Tended p pending) (hj : j ∈ pending.map Prod.fst) : j < p.shoots.size := by
  obtain ⟨q, hq, rfl⟩ := List.mem_map.1 hj
  exact (Array.getElem?_eq_some_iff.1 (h.bare q hq)).1

lemma Tended.child (h : Tended p pending) (hi : i < p.shoots.size) (hp : i ∉ pending.map Prod.fst)
    (t : Tree) :
    Tended (p.plant i t.caption) ((p.shoots.size, t) :: pending) where
  bare := by
    refine List.forall_mem_cons.2 ⟨plant_new, fun q hq => ?_⟩
    have hmem : q.1 ∈ pending.map Prod.fst := List.mem_map_of_mem hq
    have hne : i ≠ q.1 := fun heq => hp (heq ▸ hmem)
    rw [plant_other (h.lt hmem) hne]
    exact h.bare q hq
  distinct := List.nodup_cons.2 ⟨fun hmem => Nat.lt_irrefl _ (h.lt hmem), h.distinct⟩
  once := by
    rw [size_plant, List.range_succ]
    exact ((numbers_plant hi).cons 0).trans (h.once.append_right [p.shoots.size])

lemma Tended.children (h : Tended p pending) (hi : i < p.shoots.size)
    (hp : i ∉ pending.map Prod.fst) (ts : List Tree) :
    Tended (plantAll i ts p pending).1 (plantAll i ts p pending).2 := by
  induction ts generalizing p pending with
  | nil => exact h
  | cons t ts ih =>
    refine ih (h.child hi hp t) (by rw [size_plant]; omega) ?_
    rw [List.map_cons, List.mem_cons, not_or]
    exact ⟨Nat.ne_of_lt hi, hp⟩

/-- The topmost node is visited. -/
lemma Tended.next (h : Tended p ((i, t) :: pending)) :
    Tended (plantAll i t.children p pending).1 (plantAll i t.children p pending).2 := by
  obtain ⟨hbare, hpending⟩ := List.forall_mem_cons.1 h.bare
  obtain ⟨hi, hdistinct⟩ := List.nodup_cons.1 h.distinct
  exact (Tended.mk hpending hdistinct h.once).children (Array.getElem?_eq_some_iff.1 hbare).1 hi
    t.children

lemma Tended.grown (h : Tended p pending) : Tended (grow p pending) [] := by
  induction p, pending using grow.induct with
  | case1 p => rwa [grow]
  | case2 p i t pending ih =>
    rw [grow]
    exact ih h.next

lemma size_grow : (grow p pending).shoots.size + pending.length =
    p.shoots.size + remaining pending := by
  induction p, pending using grow.induct with
  | case1 p => rw [grow, remaining, List.length_nil]
  | case2 p i t pending ih =>
    have hlength : (plantAll i t.children p pending).2.length =
        t.children.length + pending.length := by
      simp [pending_plantAll]
    rw [remaining_plantAll, size_plantAll, hlength] at ih
    rw [grow, remaining, Tree.size_children, List.length_cons]
    omega

/-- New numbers are those of no earlier shoot. -/
lemma not_pending_plantAll (hj : j < p.shoots.size) (hp : j ∉ pending.map Prod.fst) :
    j ∉ (plantAll i ts p pending).2.map Prod.fst := by
  have hlength : (List.range' p.shoots.size ts.length).length ≤ ts.length :=
    Nat.le_of_eq List.length_range'
  rw [pending_plantAll, List.map_append, List.mem_append, not_or, List.map_reverse,
    List.mem_reverse, List.map_fst_zip hlength, List.mem_range'_1]
  exact ⟨by omega, hp⟩

/-- A shoot whose node is not pending has all its branches. -/
lemma kept_grow (hj : j < p.shoots.size) (hp : j ∉ pending.map Prod.fst) :
    (grow p pending).shoots[j]? = p.shoots[j]? := by
  induction p, pending using grow.induct with
  | case1 p => rw [grow]
  | case2 p i t pending ih =>
    rw [List.map_cons, List.mem_cons, not_or] at hp
    rw [grow, ih (by rw [size_plantAll]; omega) (not_pending_plantAll hj hp.2),
      plantAll_other hj (Ne.symm hp.1)]

/-- The topmost node is visited once, and then its shoot keeps the branches that it got. -/
lemma grow_parent (h : Tended p ((i, t) :: pending)) :
    (grow p ((i, t) :: pending)).shoots[i]? =
      some ⟨t.caption, List.range' p.shoots.size t.children.length⟩ := by
  obtain ⟨hi, -⟩ := List.nodup_cons.1 h.distinct
  have hbare : p.shoots[i]? = some ⟨t.caption, []⟩ := h.bare _ List.mem_cons_self
  have hlt : i < p.shoots.size := (Array.getElem?_eq_some_iff.1 hbare).1
  rw [grow, kept_grow (by rw [size_plantAll]; omega) (not_pending_plantAll hlt hi),
    plantAll_parent hbare, List.nil_append]

/-- What is true of every number with its node is true of the numbers in a row. -/
lemma map_numbered {f : Nat → Branch} {n : Nat}
    (h : ∀ q ∈ (List.range' n ts.length).zip ts, f q.1 = q.2.outline) :
    (List.range' n ts.length).map f = ts.map Tree.outline := by
  induction ts generalizing n with
  | nil => rfl
  | cons t ts ih =>
    rw [List.length_cons, List.range'_succ, List.zip_cons_cons, List.forall_mem_cons] at h
    rw [List.length_cons, List.range'_succ, List.map_cons, List.map_cons, h.1, ih h.2]

/-- Every pending shoot becomes the outline of its node. -/
lemma branch_grow (h : Tended p pending) {q : Nat × Tree} (hq : q ∈ pending) {fuel : Nat}
    (hf : q.2.size ≤ fuel) : (grow p pending).branch fuel q.1 = q.2.outline := by
  induction p, pending using grow.induct generalizing q fuel with
  | case1 p => cases hq
  | case2 p i t pending ih =>
    rcases List.mem_cons.1 hq with rfl | hq
    · have hf : t.size ≤ fuel := hf
      rw [Tree.size_children] at hf
      obtain ⟨fuel, rfl⟩ : ∃ n, fuel = n + 1 := ⟨fuel - 1, by omega⟩
      rw [Plot.branch, grow_parent h, Tree.outline_eq, grow]
      refine congrArg (Branch.node t.caption) (map_numbered fun q hq => ih h.next ?_ ?_)
      · rw [pending_plantAll]
        exact List.mem_append_left _ (List.mem_reverse.2 hq)
      · have := Tree.size_le_of_mem (List.of_mem_zip hq).2
        omega
    · rw [grow]
      refine ih h.next ?_ hf
      rw [pending_plantAll]
      exact List.mem_append_right _ hq

/-! ### Rounds -/

/-- One round: the children of the topmost pending node are planted. -/
def visit : Plot × List (Nat × Tree) → Plot × List (Nat × Tree)
  | (p, []) => (p, [])
  | (p, (i, t) :: pending) => plantAll i t.children p pending

lemma remaining_visit (w : Plot × List (Nat × Tree)) :
    remaining (visit w).2 = remaining w.2 - 1 := by
  obtain ⟨p, _ | ⟨⟨i, t⟩, pending⟩⟩ := w
  · rfl
  · rw [visit, remaining_plantAll, remaining, Tree.size_children]
    omega

lemma grow_visit (w : Plot × List (Nat × Tree)) : grow (visit w).1 (visit w).2 = grow w.1 w.2 := by
  obtain ⟨p, _ | ⟨⟨i, t⟩, pending⟩⟩ := w
  · rfl
  · rw [visit, grow]

lemma remaining_rounds (w : Plot × List (Nat × Tree)) (k : Nat) :
    remaining (visit^[k] w).2 = remaining w.2 - k := by
  induction k with
  | zero => rfl
  | succ k ih => rw [Function.iterate_succ_apply', remaining_visit, ih, Nat.sub_sub]

lemma grow_rounds (w : Plot × List (Nat × Tree)) (k : Nat) :
    grow (visit^[k] w).1 (visit^[k] w).2 = grow w.1 w.2 := by
  induction k with
  | zero => rfl
  | succ k ih => rw [Function.iterate_succ_apply', grow_visit, ih]

lemma remaining_eq_zero : remaining pending = 0 ↔ pending = [] := by
  cases pending with
  | nil => simp [remaining]
  | cons q pending => simp [remaining, Tree.size_children]

/-- There is one round for every node that is to be visited. -/
lemma rounds_end (w : Plot × List (Nat × Tree)) (k : Nat) :
    (visit^[k] w).2 = [] ↔ remaining w.2 ≤ k := by
  rw [← remaining_eq_zero, remaining_rounds, Nat.sub_eq_zero_iff_le]

lemma rounds_eq (w : Plot × List (Nat × Tree)) : visit^[remaining w.2] w = (grow w.1 w.2, []) := by
  have hend := (rounds_end w _).2 (Nat.le_refl (remaining w.2))
  have hgrow := grow_rounds w (remaining w.2)
  rw [hend, grow] at hgrow
  exact Prod.ext hgrow hend

/-! ### The grown outline -/

/-- The plot with the root, whose children are to be planted. -/
def seed (t : Tree) : Plot × List (Nat × Tree) :=
  (⟨#[⟨t.caption, []⟩]⟩, [(0, t)])

lemma tended_seed (t : Tree) : Tended (seed t).1 (seed t).2 where
  bare := List.forall_mem_singleton.2 rfl
  distinct := List.pairwise_singleton _ 0
  once := .refl [0]

lemma remaining_seed (t : Tree) : remaining (seed t).2 = t.size := by
  rw [seed, remaining, remaining, Nat.add_zero]

lemma size_seed (t : Tree) : (grow (seed t).1 (seed t).2).shoots.size = t.size := by
  have hsize : (grow (seed t).1 (seed t).2).shoots.size + 1 = 1 + remaining (seed t).2 := size_grow
  rw [remaining_seed] at hsize
  omega

lemma grown_eq_outline (t : Tree) : grown t = t.outline :=
  branch_grow (tended_seed t) (List.mem_singleton.2 rfl) (Nat.le_of_eq (size_seed t).symm)

lemma label_follow (path : List Nat) (t : Tree) :
    (follow Branch.branches path t.outline).map Branch.label =
      (follow Tree.children path t).map Tree.caption := by
  have houtline : ∀ t : Tree, t.outline.branches = t.children.map Tree.outline :=
    fun t => by rw [Tree.outline_eq, Branch.branches]
  have hlabel : Branch.label ∘ Tree.outline = Tree.caption :=
    funext fun t => by rw [Function.comp_apply, Tree.outline_eq, Branch.label]
  rw [follow_map houtline, Option.map_map, hlabel]

/-- **The grown outline shows the tree.** The rounds end after as many as the tree has nodes,
whatever the tree. Then there is one shoot for every node; the root and the branches of all shoots
are all the shoots, each once. What has grown is the outline that is defined by recursion: wherever
numbers of children lead in the tree, they lead to a branch with the caption of that node, and
nowhere else; and from top to bottom depths and labels are those of the tree. -/
theorem grown_faithful (t : Tree) :
    (∀ k, (visit^[k] (seed t)).2 = [] ↔ t.size ≤ k) ∧
    (∃ p, visit^[t.size] (seed t) = (p, []) ∧ p.shoots.size = t.size ∧
      (0 :: p.numbers).Perm (List.range t.size) ∧ grown t = p.branch t.size 0) ∧
    grown t = t.outline ∧
    (∀ path, (follow Branch.branches path (grown t)).map Branch.label =
      (follow Tree.children path t).map Tree.caption) ∧
    (grown t).preorder 0 = t.preorder 0 := by
  have honce := (tended_seed t).grown.once
  have hrounds := rounds_eq (seed t)
  rw [size_seed] at honce
  rw [remaining_seed] at hrounds
  refine ⟨fun k => ?_, ⟨_, hrounds, size_seed t, honce, ?_⟩, grown_eq_outline t, fun path => ?_, ?_⟩
  · rw [rounds_end, remaining_seed]
  · rw [← size_seed t]
    rfl
  · rw [grown_eq_outline, label_follow]
  · rw [grown_eq_outline, Branch.preorder_outline]

end

end Display

end Reckon
