import Reckon.Proofs.Operator.Errors

/-!
The operator that a wrong kind is blamed on. A message names the operator that is applied, with one
exception: what equality finds wrong is blamed on `==`, also where another operator asks it. An
inequality always does, and an ordering of tuples asks it about each pair of items, so all that an
ordering blames on itself in tuples is their lengths.
-/

namespace Reckon

/-- No symbol has the character in it that ends it in a message. -/
lemma Binary.quote_notMem_symbol (op : Binary) : '\'' ∉ op.symbol.toList := by
  rcases op with a | _ | _ | c | _ | _ <;> try cases a
  case order => cases c <;> decide
  all_goals decide

namespace TypeFault

/-- The message begins with the operator of this symbol. -/
def Names (f : TypeFault) (symbol : String) : Prop :=
  ("Operator '" ++ symbol ++ "'").toList <+: f.message.toList

variable {f : TypeFault} {s t : String}

lemma names_of_symbol (h : f.symbol? = some s) : f.Names s := by
  -- equations for `message` take long to make, so it is opened as it stands
  cases f with
  | operand op k =>
    cases h
    exact ⟨(" cannot be applied to " ++ k.name).toList, by delta message; simp⟩
  | operands op l r =>
    cases h
    exact ⟨(" cannot be applied to " ++ l.name ++ " and " ++ r.name).toList, by delta message; simp⟩
  | condition symbol k =>
    cases h
    exact ⟨(" expected boolean, got " ++ k.name).toList, by delta message; simp⟩
  | lengths op l r =>
    cases h
    exact ⟨(" requires tuples of equal length, got " ++ toString l ++ " and " ++
      toString r).toList, by
      delta message; simp⟩
  | mismatch | unconvertible => cases h

lemma Names.unique (h : f.Names s) (h' : f.Names t) (hs : '\'' ∉ s.toList) (ht : '\'' ∉ t.toList) :
    s = t := by
  obtain ⟨rest, h⟩ := h
  obtain ⟨rest', h'⟩ := h'
  have hlist := h.trans h'.symm
  simp only [String.toList_append, List.append_assoc, List.append_cancel_left_eq] at hlist
  -- the symbol is what stands before the next quote
  have hcut : ∀ {u : String} (v : List Char), '\'' ∉ u.toList →
      (u.toList ++ ("'".toList ++ v)).takeWhile (· ≠ '\'') = u.toList := by
    intro u v hu
    have hpos : ∀ c ∈ u.toList, decide (c ≠ '\'') = true := by
      intro c hc
      exact decide_eq_true (by rintro rfl; exact hu hc)
    rw [List.takeWhile_append_of_pos hpos]
    simp
  rw [← String.toList_inj, ← hcut _ hs, hlist, hcut _ ht]

lemma names_iff (h : f.symbol? = some t) (hs : '\'' ∉ s.toList) (ht : '\'' ∉ t.toList) :
    f.Names s ↔ s = t :=
  ⟨fun hn => hn.unique (names_of_symbol h) hs ht, fun he => he ▸ names_of_symbol h⟩

end TypeFault

/-! ### All operators -/

/-- The operator leaves it to equality whether the kinds of its operands go together, and
they do not. -/
def Binary.ByEquality (op : Binary) (l r : Value) : Prop :=
  (op = ne ∨ (∃ c, op = order c) ∧ l.kind = .tuple ∧ r.kind = .tuple) ∧
    ∃ f, l.equal r = .error (.type f)

/-- Of two operators one is named: the one that is applied, or `==` in its place. -/
lemma symbol_binary (op : Binary) {l r : Value} {f : TypeFault}
    (h : op.apply l r = .error (.type f)) :
    f.symbol? = some op.symbol ∧ ¬ op.ByEquality l r ∨
      op.symbol ≠ Binary.eq.symbol ∧ op.ByEquality l r ∧ l.equal r = .error (.type f) := by
  cases op with
  | arith a => exact .inl ⟨blames_arithmetic a l r _ h, fun ⟨h, _⟩ => h.elim nofun nofun⟩
  | eq => exact .inl ⟨((Value.blames_equal l r).map _) _ h, fun ⟨h, _⟩ => h.elim nofun nofun⟩
  | ne =>
    have he := Action.map_eq_error h
    exact .inr ⟨by decide, ⟨.inl rfl, f, he⟩, he⟩
  | order c =>
    have ho := Action.map_eq_error h
    by_cases hk : l.kind = .tuple ∧ r.kind = .tuple
    · rcases Value.error_order c l r ho hk.1 hk.2 with he | ⟨he, m, n, hf⟩
      · exact .inr ⟨by cases c <;> decide, ⟨.inr ⟨⟨c, rfl⟩, hk⟩, f, he⟩, he⟩
      · cases hf
        exact .inl ⟨rfl, fun ⟨_, g, hg⟩ => nomatch he.symm.trans hg⟩
    · cases Value.error_order_scalars ho hk
      exact .inl ⟨rfl, fun ⟨h, _⟩ => h.elim nofun fun h => hk h.2⟩
  | and | or =>
    refine .inl ⟨?_, fun ⟨h, _⟩ => h.elim nofun nofun⟩
    cases l <;> cases r <;> cases h <;> rfl

/-- **A wrong kind is blamed on the operator, but for what equality finds.** The message names the
operator that is applied, unless this leaves the kinds to equality, which finds them wrong: an
inequality does, and an ordering of tuples. The message is then that of equality and names `==`. -/
theorem wrong_kind_blamed (f : TypeFault) :
    (∀ (op : Unary) v, op.apply v = .error (.type f) → f.Names op.symbol) ∧
    ∀ (op : Binary) l r, op.apply l r = .error (.type f) →
      (f.Names op.symbol ↔ ¬ op.ByEquality l r) ∧
      (op.ByEquality l r → l.equal r = .error (.type f) ∧ f.Names Binary.eq.symbol) := by
  refine ⟨fun op v h => TypeFault.names_of_symbol (blames_unary op v _ h), fun op l r h => ?_⟩
  rcases symbol_binary op h with ⟨hs, hno⟩ | ⟨hne, hby, he⟩
  · exact ⟨⟨fun _ => hno, fun _ => TypeFault.names_of_symbol hs⟩, fun hby => absurd hby hno⟩
  · have hs : f.symbol? = _ := Value.blames_equal l r _ he
    have hnot : ¬ f.Names op.symbol :=
      mt (TypeFault.names_iff hs op.quote_notMem_symbol Binary.eq.quote_notMem_symbol).1 hne
    exact ⟨⟨fun hn => absurd hn hnot, fun hno => absurd hby hno⟩,
      fun _ => ⟨he, TypeFault.names_of_symbol hs⟩⟩

/-- The tuples `(1, (2, "a"))` and `(1, (2, 3))` have no order, and the message names `==`. -/
theorem wrong_kind_blamed_nested :
    let l := Value.tuple [.int 1, .tuple [.int 2, .string "a"]]
    let r := Value.tuple [.int 1, .tuple [.int 2, .int 3]]
    ∃ f, Binary.apply (.order .lt) l r = .error (.type f) ∧ f.Names "==" ∧ ¬ f.Names "<" := by
  intro l r
  have h : Binary.apply (.order .lt) l r = .error (.type (.operands .eq .string .int)) := by rfl
  have hby : (Binary.order .lt).ByEquality l r := ⟨.inr ⟨⟨.lt, rfl⟩, rfl, rfl⟩, _, by rfl⟩
  obtain ⟨hnames, heq⟩ := (wrong_kind_blamed _).2 (.order .lt) l r h
  exact ⟨_, h, (heq hby).2, fun hn => hnames.1 hn hby⟩

/-- Of `1 != "a"` it is said that `==` cannot be applied. -/
theorem inequality_unnamed :
    ∃ f, Binary.apply .ne (.int 1) (.string "a") = .error (.type f) ∧
      ¬ f.Names Binary.ne.symbol := by
  have hs : (TypeFault.operands .eq .int .string).symbol? = some "==" := rfl
  refine ⟨_, rfl, fun hn => ?_⟩
  have := (TypeFault.names_iff hs (by decide) (by decide)).1 hn
  revert this
  decide

end Reckon
