import Reckon.Proofs.Evaluate.Meaning
import Reckon.Proofs.Evaluate.Sound
import Reckon.Proofs.Session.Limits
import Reckon.Proofs.Tree.Sources
import Reckon.Proofs.Value.Native

/-!
Only documented errors, and only well-formed values. Reading a text in a session is reading it under
some limit, so it gives a well-formed tree or an error that the text brings about. If the store
holds well-formed values and host functions that give well-formed data, then what is evaluated is
well-formed, what host functions are given is well-formed, and the store stays so; an error is one
that evaluation documents or one that a host function ends with.
-/

namespace Reckon

open Reckon.Action Evaluate

/-! ### Data -/

namespace Native

mutual

/-- The values among the data are well-formed. -/
def WellFormed : Native → Prop
  | list items | tuple items => AllWellFormed items
  | value v => v.WellFormed
  | _ => True

def AllWellFormed : List Native → Prop
  | [] => True
  | x :: xs => x.WellFormed ∧ AllWellFormed xs

end

lemma yields_ofInt (n : Int) : Yields Value.WellFormed (Value.ofInt n) :=
  .ite (fun h => .ok h) fun _ => .error _

mutual

lemma yields_toValue (x : Native) (h : x.WellFormed) : Yields Value.WellFormed x.toValue := by
  match x with
  | int n => exact yields_ofInt n
  | list items | tuple items => exact (yields_toValues items h).map fun _ h => h
  | value v => exact .ok h
  | nothing | boolean b | float x | string s => exact .ok trivial
  | foreign type => exact .error _

lemma yields_toValues (xs : List Native) (h : AllWellFormed xs) :
    Yields Value.AllWellFormed (toValues xs) := by
  match xs with
  | [] => exact .ok trivial
  | x :: xs =>
    have hx := yields_toValue x h.1
    have hxs := yields_toValues xs h.2
    exact hx.bind fun v hv => hxs.bind fun vs hvs => .ok ⟨hv, hvs⟩

end

/-- The error is that an integer among the data has too many digits to be written. -/
def Unwritten (x : Native) (e : Error) : Prop :=
  (∃ n, int n ∈ x.leaves ∧ ¬ Text.Writable n) ∧ e = .fault .unwritten

/-- Data that become no value have the wrong kind, or an integer that is out of range or
not even written. -/
lemma operands_or_unwritten {x : Native} {e : Error} (h : x.toValue = .error e) :
    e.OfOperands ∨ x.Unwritten e := by
  rw [← error?_eq_some, error_toValue] at h
  obtain ⟨leaf, hmem, hleaf⟩ := List.exists_of_findSome?_eq_some h
  rcases fault?_eq_some.1 hleaf with ⟨n, -, -, -, rfl⟩ | ⟨n, rfl, hn, rfl⟩ | ⟨type, -, rfl⟩
  · exact .inl trivial
  · exact .inr ⟨⟨n, hmem, hn⟩, rfl⟩
  · exact .inl trivial

end Native

/-! ### Host functions and stores -/

/-- A host function that is answered with well-formed values asks for well-formed data to be bound,
and gives such data in the end. -/
def Proc.WellFormed : Proc → Prop
  | give data => data.WellFormed
  | fail _ => True
  | lookup _ next | unbind _ next =>
    ∀ r : Option Value, (∀ v, r = some v → v.WellFormed) → (next r).WellFormed
  | bind _ data next => data.WellFormed ∧ next.WellFormed
  | bindFunction _ _ body _ next =>
    (∀ args, Value.AllWellFormed args → (body args).WellFormed) ∧ next.WellFormed
  | unbindFunction _ next => ∀ r, (next r).WellFormed
  | evaluate _ next => ∀ r, Yields Value.WellFormed r → (next r).WellFormed

def Function.WellFormed (f : Function) : Prop :=
  ∀ args, Value.AllWellFormed args → (f.body args).WellFormed

structure Store.WellFormed (s : Store) : Prop where
  values : ∀ {n v}, s.values.get? n = some v → v.WellFormed
  functions : ∀ {n f}, s.functions.get? n = some f → f.WellFormed

lemma Names.all_insert {α : Type} {P : α → Prop} {names : Names α} {n m : String} {a b : α}
    (h : ∀ {n a}, names.get? n = some a → P a) (hb : P b)
    (hm : (names.insert n b).get? m = some a) : P a := by
  rw [get?_insert] at hm
  split at hm
  · cases hm; exact hb
  · exact h hm

lemma Names.all_erase {α : Type} {P : α → Prop} {names : Names α} {n m : String} {a : α}
    (h : ∀ {n a}, names.get? n = some a → P a) (hm : (names.erase n).get? m = some a) : P a := by
  rw [get?_erase] at hm
  split at hm
  · cases hm
  · exact h hm

namespace Act

/-- The store of the session is well-formed. -/
def Held (s : Session) : Prop :=
  s.store.WellFormed

lemma gives_lift {α : Type} {Q : α → Prop} {r : Except Error α} (h : Yields Q r) :
    Gives Held Q (lift r) := by
  intro s hs
  cases r with
  | ok a => exact ⟨h a rfl, hs⟩
  | error e => exact hs

lemma held_bindVariable (n : String) {data : Native} (h : data.WellFormed) :
    Keeps Held (bindVariable n data) := by
  have hv := gives_lift (Native.yields_toValue data h)
  refine (hv.bind (R := fun _ => True) fun v hv => .of_keeps ?_).keeps
  refine (Keeps.modify fun s hs => ?_).bind fun _ => stored_note _ _
  exact ⟨Names.all_insert hs.values hv, hs.functions⟩

lemma gives_unbindVariable (n : String) :
    Gives Held (fun r => ∀ v, r = some v → v.WellFormed) (unbindVariable n) :=
  fun _ hs => ⟨fun _ hv => hs.values hv, Names.all_erase hs.values, hs.functions⟩

lemma held_bindFunction (n : String) {f : Function} (h : f.WellFormed) :
    Keeps Held (bindFunction n f) := by
  refine (Keeps.modify fun s hs => ?_).bind fun _ => stored_note _ _
  exact ⟨hs.values, Names.all_insert hs.functions h⟩

lemma held_unbindFunction (n : String) : Keeps Held (unbindFunction n) :=
  fun _ hs => ⟨hs.values, Names.all_erase hs.functions⟩

section

variable {evaluate : String → Act Value}

lemma gives_outcome {a : Act Value} (h : Gives Held Value.WellFormed a) :
    Gives Held (Yields Value.WellFormed) (outcome a) := by
  intro s hs
  cases ha : a s with
  | ok v s' =>
    obtain ⟨hv, hs'⟩ := h.of_ok hs ha
    simp only [outcome, ha]
    exact ⟨.ok hv, hs'⟩
  | error e s' =>
    simp only [outcome, ha]
    exact ⟨.error e, h.of_error hs ha⟩

/-- What a host function asks for keeps the store well-formed, and it gives well-formed data. -/
lemma gives_perform (h : ∀ text, Gives Held Value.WellFormed (evaluate text)) {p : Proc}
    (hp : p.WellFormed) : Gives Held Native.WellFormed (perform evaluate p) := by
  induction p with
  | give data => exact .pure hp
  | fail e => exact .throw e
  | lookup n next ih => exact .get fun s hs => ih _ (hp _ fun v hv => hs.values hv)
  | bind n data next ih => exact (Gives.of_keeps (held_bindVariable n hp.1)).bind fun _ _ => ih hp.2
  | unbind n next ih => exact (gives_unbindVariable n).bind fun r hr => ih r (hp r hr)
  | bindFunction n own body count next _ ih =>
    exact (Gives.of_keeps (held_bindFunction n (f := ⟨own, body, count⟩) hp.1)).bind fun _ _ =>
      ih hp.2
  | unbindFunction n next ih =>
    exact (Gives.of_keeps (held_unbindFunction n)).bind fun _ _ => ih _ (hp _)
  | evaluate text next ih => exact (gives_outcome (h text)).bind fun r hr => ih r (hp r hr)

lemma gives_call (h : ∀ text, Gives Held Value.WellFormed (evaluate text)) (name : String)
    {args : List Value} (ha : Value.AllWellFormed args) :
    Gives Held Value.WellFormed (call evaluate name args) := by
  intro s hs
  rcases call_cases evaluate name args s with ⟨-, h'⟩ | ⟨_, n, -, -, -, h'⟩ | ⟨f, hf, -, h'⟩ <;>
    rw [h']
  · exact hs
  · exact hs
  refine ((gives_perform h (hs.functions hf args ha)).bind fun data hd => ?_) _ hs
  exact gives_lift (Native.yields_toValue data hd)

lemma sound_bindings (h : ∀ text, Gives Held Value.WellFormed (evaluate text)) :
    (bindings evaluate).Sound Held :=
  ⟨fun hs hv => hs.values hv, fun ha => gives_call h _ ha⟩

lemma gives_evaluateWith {b : Bindings Session} (hb : b.Sound Held) (limit : Option Int) {t : Tree}
    (ht : t.WellFormed) : Gives Held Value.WellFormed (evaluateWith b limit t) :=
  (Gives.of_keeps ((steady_store _).depth limit)).bind fun _ _ => gives_evaluate hb ht

end

lemma gives_readTree (limit : Option Int) (source : String) :
    Gives Held Tree.WellFormed (readTree limit source) := by
  intro s hs
  obtain ⟨n, s₁, hn⟩ := nesting_total limit s
  have hr := result_readTree hn source
  have hsourced := Tree.sourced_ofSource n source
  have hkeeps := (steady_store Store.WellFormed).readTree limit source s hs
  cases h : readTree limit source s with
  | ok t s' =>
    rw [result_of_ok h] at hr
    rw [← hr] at hsourced
    rw [after_of_ok h] at hkeeps
    exact ⟨hsourced, hkeeps⟩
  | error e s' =>
    rw [after_of_error h] at hkeeps
    exact hkeeps

lemma gives_source (allowance : Nat) (text : String) :
    Gives Held Value.WellFormed (source allowance text) := by
  induction allowance generalizing text with
  | zero => exact .throw _
  | succ allowance ih =>
    refine (gives_readTree none text).bind fun t ht => ?_
    refine (gives_evaluateWith (sound_bindings ih) none ht).bind fun v hv => ?_
    exact (Gives.of_keeps (stored_note _ _)).bind fun _ _ => .pure hv

lemma sound_names : names.Sound Held :=
  sound_bindings (gives_source allowance)

/-! ### Errors -/

/-- A host function ends with the error, or with data that cannot be told to be out of range. -/
def FailsWith (e : Error) (s : Session) (r : EStateM.Result Error Session Native) : Prop :=
  r = .error e s ∨ ∃ data, r = .ok data s ∧ data.Unwritten e

/-- A call that fails does so at its name or its number of arguments, or because the body gives what
is no value, or the body fails. -/
lemma call_error {evaluate : String → Act Value} {name : String} {args : List Value}
    {s s' : Session} {e : Error} (h : call evaluate name args s = .error e s') :
    e.OfEvaluation ∨ ∃ f, s.store.functions.get? name = some f ∧
      FailsWith e s' (perform evaluate (f.body args)
        { s with calls := s.calls.push (name, args) }) := by
  rcases call_cases evaluate name args s with ⟨-, h'⟩ | ⟨_, n, -, -, -, h'⟩ | ⟨f, hf, -, h'⟩ <;>
    rw [h] at h'
  · cases h'; exact .inl trivial
  · cases h'; exact .inl trivial
  rcases bind_eq_error.1 h'.symm with h' | ⟨data, s₁, hdone, h'⟩
  · exact .inr ⟨f, hf, .inl h'⟩
  · obtain ⟨hv, rfl⟩ := lift_eq_error.1 h'
    exact (Native.operands_or_unwritten hv).imp Error.OfOperands.ofEvaluation
      fun hdata => ⟨f, hf, .inr ⟨data, hdone, hdata⟩⟩

/-- The evaluation comes to the call of a host function that ends with the error. -/
def Hosted (limit : Int) (t : Tree) (s : Session) (e : Error) : Prop :=
  ∃ n name count work values args rest s₁ s₂ f,
    Rounds names limit n (.start t s) ⟨.call name count :: work, values, s₁⟩ ∧
      take count values = some (args, rest) ∧ s₁.store.functions.get? name = some f ∧
      FailsWith e s₂ (perform (source allowance)
        (f.body args) { s₁ with calls := s₁.calls.push (name, args) })

lemma ofEvaluation_or_hosted {limit : Int} {t : Tree} {s s' : Session} {e : Error}
    (h : t.evaluate names limit s = .error e s') : e.OfEvaluation ∨ Hosted limit t s e := by
  rcases ofEvaluation_or_called h with h |
    ⟨n, name, count, work, values, args, rest, s₁, s₂, hr, ht, hc⟩
  · exact .inl h
  rcases call_error hc with h | ⟨f, hf, hp⟩
  · exact .inl h
  · exact .inr ⟨n, name, count, work, values, args, rest, s₁, s₂, f, hr, ht, hf, hp⟩

end Act

/-- **Only documented errors, and only well-formed values.** In every session and under every limit
a source and an assignment are read as well-formed trees or refused with an error of their own,
unless an integer of the source has more digits than are read. With bindings that are sound, the
machine holds well-formed values at every moment and has the values that it needs, and it ends with
a well-formed value, or with an error of evaluation or of a function that it calls. In a session
whose store is well-formed, the store stays so, and the only other errors are those that host
functions end with, or that data which they give have an integer of too many digits. -/
theorem Session.only_documented :
    (∀ (s : Session) limit source,
      Sourced (Error.OfReading source) Tree.WellFormed (result (Act.readTree limit source) s) ∧
      Sourced (Error.OfReading source) (fun r => Token.IsName r.1 ∧ r.2.WellFormed)
        (result (Act.readAssignment limit source) s) ∧
      Sourced Error.OfSource Token.Ended (Token.scan source)) ∧
    (∀ {σ : Type} {P : σ → Prop} {b : Bindings σ}, b.Sound P →
      ∀ (limit : Int) (t : Tree) (st : σ), t.WellFormed → P st →
        (∀ n m, Rounds b limit n (.start t st) m → m.Sound P ∧ m.Supplied) ∧
        P (after (t.evaluate b limit) st) ∧
        match result (t.evaluate b limit) st with
        | .ok v => v.WellFormed
        | .error e => e.OfEvaluation ∨ Called b limit t st e) ∧
    ∀ (s : Session) limit t, s.store.WellFormed → t.WellFormed →
      (after (Act.evaluate limit t) s).store.WellFormed ∧
      match result (Act.evaluate limit t) s with
      | .ok v => v.WellFormed
      | .error e =>
        e.OfEvaluation ∨ ∃ d s₁, Act.depth limit s = .ok d s₁ ∧ Act.Hosted d t s₁ e := by
  refine ⟨fun s limit source => ?_, fun {σ P b} hb limit t st ht hst => ?_,
    fun s limit t hs ht => ?_⟩
  · obtain ⟨n, s₁, hn⟩ := Act.nesting_total limit s
    rw [Act.result_readTree hn, Act.result_readAssignment hn]
    exact ⟨Tree.sourced_ofSource n source, Tree.sourced_ofAssignment n source,
      Token.ended_scan source⟩
  · refine ⟨fun n m hm => ⟨hm.sound hb (sound_start ht hst), hm.supplied⟩,
      (gives_evaluate hb ht).keeps st hst, ?_⟩
    cases h : t.evaluate b limit st with
    | ok v st' =>
      rw [result_of_ok h]
      exact ((gives_evaluate hb ht).of_ok hst h).1
    | error e st' =>
      rw [result_of_error h]
      exact ofEvaluation_or_called h
  · have hgives : Gives Act.Held Value.WellFormed (Act.evaluate limit t) :=
      Act.gives_evaluateWith Act.sound_names limit ht
    refine ⟨hgives.keeps s hs, ?_⟩
    cases h : Act.evaluate limit t s with
    | ok v s' =>
      rw [result_of_ok h]
      exact (hgives.of_ok hs h).1
    | error e s' =>
      rw [result_of_error h]
      obtain ⟨d, s₁, hd⟩ := Act.depth_total limit s
      have h' : t.evaluate Act.names d s₁ = .error e s' := (bind_of_ok hd).symm.trans h
      exact (Act.ofEvaluation_or_hosted h').imp_right fun h => ⟨d, s₁, hd, h⟩

/-- A host function that gives its arguments back as a tuple, called with a variable. -/
theorem Session.only_documented_pair :
    let pair : Function := ⟨"pair", fun args => .give (.value (.tuple args)), none⟩
    let s : Session := { Session.initial with
      store := ⟨Names.empty.insert "x" (.int 5), Names.empty.insert "pair" pair⟩ }
    let t : Tree := .call "pair" [.name "x", .literal (.int 1)]
    s.store.WellFormed ∧ t.WellFormed ∧ Act.names.Sound Act.Held ∧
      Act.Held (after (t.evaluate Act.names 1) s) ∧
      (after (Act.evaluate (some 1) t) s).store.WellFormed ∧
      result (Act.evaluate (some 1) t) s = .ok (.tuple [.int 5, .int 1]) := by
  intro pair s t
  have hpair : pair.WellFormed := fun args h => h
  have hs : s.store.WellFormed :=
    ⟨Names.all_insert (P := Value.WellFormed) nofun (by decide), Names.all_insert nofun hpair⟩
  have ht : t.WellFormed := ⟨trivial, show InRange 1 by decide, trivial⟩
  have hall := Session.only_documented
  refine ⟨hs, ht, Act.sound_names, (hall.2.1 Act.sound_names 1 t s ht hs).2.1,
    (hall.2.2 s (some 1) t hs ht).1, ?_⟩
  have hvalue : Act.evaluate (some 1) t s = t.value Act.names 1 0 s := by
    rw [← run_eval_nil]
    rfl
  rw [result, hvalue]
  rfl

end Reckon
