/-!
Actions on a state that end with a result or an error, one after another. What a sequence of two
actions does is told by what the first one does.
-/

namespace Reckon.Action

variable {ε σ α β : Type} {x : EStateM ε σ α} {f : α → EStateM ε σ β} {s s' : σ}

theorem pure_apply (a : α) (s : σ) : (pure a : EStateM ε σ α) s = .ok a s :=
  rfl

theorem throw_apply (e : ε) (s : σ) : (throw e : EStateM ε σ α) s = .error e s :=
  rfl

theorem get_bind (f : σ → EStateM ε σ β) (s : σ) : (get >>= f : EStateM ε σ β) s = f s s :=
  rfl

theorem throw_bind (e : ε) (f : α → EStateM ε σ β) : (throw e >>= f : EStateM ε σ β) = throw e :=
  rfl

theorem bind_of_ok {a : α} (h : x s = .ok a s') : (x >>= f) s = f a s' := by
  change EStateM.bind x f s = _
  rw [EStateM.bind, h]

theorem bind_of_error {e : ε} (h : x s = .error e s') : (x >>= f) s = .error e s' := by
  change EStateM.bind x f s = _
  rw [EStateM.bind, h]

/-- Only the results that the first action has matter to the second. -/
theorem bind_congr {g : α → EStateM ε σ β} (h : ∀ a s', x s = .ok a s' → f a s' = g a s') :
    (x >>= f) s = (x >>= g) s := by
  cases hx : x s with
  | ok a s' => rw [bind_of_ok hx, bind_of_ok hx, h a s' hx]
  | error e s' => rw [bind_of_error hx, bind_of_error hx]

theorem bind_eq_ok {b : β} :
    (x >>= f) s = .ok b s' ↔ ∃ a s₁, x s = .ok a s₁ ∧ f a s₁ = .ok b s' := by
  cases h : x s with
  | ok a s₁ =>
    rw [bind_of_ok h]
    constructor
    · exact fun h' => ⟨a, s₁, rfl, h'⟩
    · rintro ⟨_, _, h', h''⟩; cases h'; exact h''
  | error e s₁ => simp [bind_of_error h]

theorem bind_eq_error {e : ε} :
    (x >>= f) s = .error e s' ↔
      x s = .error e s' ∨ ∃ a s₁, x s = .ok a s₁ ∧ f a s₁ = .error e s' := by
  cases h : x s with
  | ok a s₁ =>
    rw [bind_of_ok h]
    constructor
    · exact fun h' => .inr ⟨a, s₁, rfl, h'⟩
    · rintro (h' | ⟨_, _, h', h''⟩)
      · cases h'
      · cases h'; exact h''
  | error e s₁ => simp [bind_of_error h]

/-! ### Properties of the state -/

/-- The state that an action leaves, with a result or with an error. -/
def after (x : EStateM ε σ α) (s : σ) : σ :=
  match x s with
  | .ok _ s' => s'
  | .error _ s' => s'

theorem after_of_ok {a : α} (h : x s = .ok a s') : after x s = s' := by
  rw [after, h]

theorem after_of_error {e : ε} (h : x s = .error e s') : after x s = s' := by
  rw [after, h]

/-- What an action ends with, whatever state it leaves. -/
def result (x : EStateM ε σ α) (s : σ) : Except ε α :=
  match x s with
  | .ok a _ => .ok a
  | .error e _ => .error e

theorem result_of_ok {a : α} (h : x s = .ok a s') : result x s = .ok a := by
  rw [result, h]

theorem result_of_error {e : ε} (h : x s = .error e s') : result x s = .error e := by
  rw [result, h]

theorem result_bind_of_ok {a : α} (h : x s = .ok a s') : result (x >>= f) s = result (f a) s' := by
  rw [result, bind_of_ok h, result]

theorem result_bind_of_error {e : ε} (h : x s = .error e s') : result (x >>= f) s = .error e := by
  rw [result, bind_of_error h]

/-- The action keeps the property of the state, also if it fails. -/
def Keeps (P : σ → Prop) (x : EStateM ε σ α) : Prop :=
  ∀ s, P s → P (after x s)

namespace Keeps

variable {P : σ → Prop}

theorem pure (a : α) : Keeps P (pure a : EStateM ε σ α) :=
  fun _ h => h

theorem throw (e : ε) : Keeps P (throw e : EStateM ε σ α) :=
  fun _ h => h

theorem modify {g : σ → σ} (hg : ∀ s, P s → P (g s)) : Keeps P (modify g : EStateM ε σ Unit) :=
  hg

theorem of_ok (hx : Keeps P x) {a : α} (hs : P s) (h : x s = .ok a s') : P s' := by
  have := hx s hs
  rwa [after_of_ok h] at this

theorem bind (hx : Keeps P x) (hf : ∀ a, Keeps P (f a)) : Keeps P (x >>= f) := by
  intro s hs
  have hs' := hx s hs
  cases h : x s with
  | ok a s' =>
    rw [after_of_ok h] at hs'
    rw [after, bind_of_ok h]
    exact hf a s' hs'
  | error e s' =>
    rw [after_of_error h] at hs'
    rw [after, bind_of_error h]
    exact hs'

theorem get {f : σ → EStateM ε σ β} (hf : ∀ s, P s → P (after (f s) s)) :
    Keeps P (get >>= f : EStateM ε σ β) :=
  hf

theorem ite {p : Prop} [Decidable p] {y : EStateM ε σ α} (hx : Keeps P x) (hy : Keeps P y) :
    Keeps P (if p then x else y) := by
  split
  · exact hx
  · exact hy

theorem forM {γ : Type} {f : γ → EStateM ε σ PUnit} (hf : ∀ c, Keeps P (f c)) (l : List γ) :
    Keeps P (l.forM f) := by
  induction l with
  | nil => exact .pure _
  | cons c l ih =>
    exact (hf c).bind fun _ => ih

end Keeps

/-! ### Properties of results -/

/-- The action keeps the property `P` of the state, and its results are as `Q` says. -/
def Gives (P : σ → Prop) (Q : α → Prop) (x : EStateM ε σ α) : Prop :=
  ∀ s, P s → match x s with
    | .ok a s' => Q a ∧ P s'
    | .error _ s' => P s'

namespace Gives

variable {P : σ → Prop} {Q : α → Prop} {R : β → Prop}

theorem pure {a : α} (h : Q a) : Gives P Q (pure a : EStateM ε σ α) :=
  fun _ hs => ⟨h, hs⟩

theorem throw (e : ε) : Gives P Q (throw e : EStateM ε σ α) :=
  fun _ hs => hs

theorem of_ok (hx : Gives P Q x) {a : α} (hs : P s) (h : x s = .ok a s') : Q a ∧ P s' := by
  have := hx s hs
  rwa [h] at this

theorem of_error (hx : Gives P Q x) {e : ε} (hs : P s) (h : x s = .error e s') : P s' := by
  have := hx s hs
  rwa [h] at this

theorem get {f : σ → EStateM ε σ α} (hf : ∀ s, P s → Gives P Q (f s)) :
    Gives P Q (get >>= f : EStateM ε σ α) :=
  fun s hs => hf s hs s hs

theorem bind (hx : Gives P Q x) (hf : ∀ a, Q a → Gives P R (f a)) : Gives P R (x >>= f) := by
  intro s hs
  cases h : x s with
  | ok a s' =>
    obtain ⟨ha, hs'⟩ := hx.of_ok hs h
    rw [bind_of_ok h]
    exact hf a ha s' hs'
  | error e s' =>
    rw [bind_of_error h]
    exact hx.of_error hs h

theorem of_keeps (hx : Keeps P x) : Gives P (fun _ => True) x := by
  intro s hs
  have hs' := hx s hs
  cases h : x s with
  | ok a s' => rw [after_of_ok h] at hs'; exact ⟨trivial, hs'⟩
  | error e s' => rwa [after_of_error h] at hs'

theorem keeps (hx : Gives P Q x) : Keeps P x := by
  intro s hs
  cases h : x s with
  | ok a s' => rw [after_of_ok h]; exact (hx.of_ok hs h).2
  | error e s' => rw [after_of_error h]; exact hx.of_error hs h

end Gives

/-! ### Actions side by side -/

section

variable {τ δ γ : Type} {R : σ → τ → Prop} {E : ε → δ → Prop} {V : α → β → Prop}

/-- Both ends are results, or both are errors, and they are related, as are the states. -/
inductive Alike (R : σ → τ → Prop) (E : ε → δ → Prop) (V : α → β → Prop) :
    EStateM.Result ε σ α → EStateM.Result δ τ β → Prop
  | ok {a : α} {b : β} {s : σ} {t : τ} (h : V a b) (hs : R s t) : Alike R E V (.ok a s) (.ok b t)
  | error {e : ε} {d : δ} {s : σ} {t : τ} (h : E e d) (hs : R s t) :
      Alike R E V (.error e s) (.error d t)

/-- On related states the actions end alike. -/
def Relates (R : σ → τ → Prop) (E : ε → δ → Prop) (V : α → β → Prop) (x : EStateM ε σ α)
    (y : EStateM δ τ β) : Prop :=
  ∀ s t, R s t → Alike R E V (x s) (y t)

namespace Relates

variable {α' β' : Type} {W : α' → β' → Prop} {x : EStateM ε σ α} {y : EStateM δ τ β}

theorem pure {a : α} {b : β} (h : V a b) :
    Relates R E V (pure a : EStateM ε σ α) (pure b : EStateM δ τ β) :=
  fun _ _ hs => .ok h hs

theorem throw {e : ε} {d : δ} (h : E e d) :
    Relates R E V (throw e : EStateM ε σ α) (throw d : EStateM δ τ β) :=
  fun _ _ hs => .error h hs

theorem modify {f : σ → σ} {g : τ → τ} (h : ∀ s t, R s t → R (f s) (g t)) :
    Relates R E Eq (modify f : EStateM ε σ Unit) (modify g : EStateM δ τ Unit) :=
  fun s t hs => .ok rfl (h s t hs)

theorem get {f : σ → EStateM ε σ α} {g : τ → EStateM δ τ β}
    (h : ∀ s t, R s t → Relates R E V (f s) (g t)) :
    Relates R E V (get >>= f : EStateM ε σ α) (get >>= g : EStateM δ τ β) :=
  fun s t hs => h s t hs s t hs

theorem bind {f : α → EStateM ε σ α'} {g : β → EStateM δ τ β'} (hx : Relates R E V x y)
    (hf : ∀ a b, V a b → Relates R E W (f a) (g b)) : Relates R E W (x >>= f) (y >>= g) := by
  intro s t hs
  have h := hx s t hs
  cases ha : x s with
  | ok a s' =>
    cases hb : y t with
    | ok b t' =>
      rw [ha, hb] at h
      obtain ⟨hv, hs'⟩ | _ := h
      rw [bind_of_ok ha, bind_of_ok hb]
      exact hf a b hv s' t' hs'
    | error d t' => rw [ha, hb] at h; cases h
  | error e s' =>
    cases hb : y t with
    | ok b t' => rw [ha, hb] at h; cases h
    | error d t' =>
      rw [ha, hb] at h
      obtain _ | ⟨he, hs'⟩ := h
      rw [bind_of_error ha, bind_of_error hb]
      exact .error he hs'

/-- The same result goes on in the same way. -/
theorem bind_same {y : EStateM δ τ α} {f : α → EStateM ε σ α'} {g : α → EStateM δ τ β'}
    (hx : Relates R E Eq x y) (hf : ∀ a, Relates R E W (f a) (g a)) :
    Relates R E W (x >>= f) (y >>= g) :=
  hx.bind fun a _ h => h ▸ hf a

theorem ite {p q : Prop} [Decidable p] [Decidable q] {x' : EStateM ε σ α} {y' : EStateM δ τ β}
    (h : p ↔ q) (hx : Relates R E V x y) (hx' : Relates R E V x' y') :
    Relates R E V (if p then x else x') (if q then y else y') := by
  by_cases hp : p
  · rw [if_pos hp, if_pos (h.1 hp)]
    exact hx
  · rw [if_neg hp, if_neg (mt h.2 hp)]
    exact hx'

/-- Actions that end alike have the same result, if only equal results and errors are. -/
theorem result_eq {y : EStateM ε τ α} {t : τ} (h : Relates R Eq Eq x y) (hs : R s t) :
    result x s = result y t := by
  have h := h s t hs
  generalize hx : x s = r at h
  generalize hy : y t = r' at h
  cases h with
  | ok h => rw [result_of_ok hx, result_of_ok hy, h]
  | error h => rw [result_of_error hx, result_of_error hy, h]

theorem after_related {t : τ} (h : Relates R E V x y) (hs : R s t) : R (after x s) (after y t) := by
  have h := h s t hs
  generalize hx : x s = r at h
  generalize hy : y t = r' at h
  cases h with
  | ok _ hs' => rw [after_of_ok hx, after_of_ok hy]; exact hs'
  | error _ hs' => rw [after_of_error hx, after_of_error hy]; exact hs'

end Relates

end

/-! ### Results without a state -/

theorem map_eq_ok {g : α → β} {r : Except ε α} {b : β} (h : r.map g = .ok b) :
    ∃ a, r = .ok a ∧ g a = b := by
  cases r with
  | error e => cases h
  | ok a => exact ⟨a, rfl, Except.ok.inj h⟩

theorem map_eq_error {g : α → β} {r : Except ε α} {e : ε} (h : r.map g = .error e) :
    r = .error e := by
  cases r with
  | error e' => exact congrArg _ (Except.error.inj h)
  | ok a => cases h

end Reckon.Action
