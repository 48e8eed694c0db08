import Reckon.Proofs.Session.Limits
import Reckon.Proofs.Tree.Depth

/-!
What is built can be evaluated. The builder never opens more levels than a limit allows, a tree
needs no more depth than there were levels, and the depth in effect covers the nesting in effect,
whatever the environment asks for; so under the limits of one environment no evaluation is too deep.
-/

namespace Reckon

open Reckon.Action Evaluate

/-- What can be asked of a session. -/
inductive Operation
  | limits
  | build (source : Option String) (limit : Option Int) (ts : List Token)
  | readTree (limit : Option Int) (source : String)
  | readAssignment (limit : Option Int) (source : String)
  | bindVariable (name : String) (data : Native)
  | unbindVariable (name : String)
  | bindFunction (name : String) (f : Function)
  | unbindFunction (name : String)
  | call (name : String) (args : List Value)
  | evaluate (limit : Option Int) (t : Tree)
  | evaluateText (text : String)
  | assign (statement : String)

def Operation.act : Operation → Act Unit
  | limits => do let _ ← Act.limits
  | build source limit ts => do let _ ← Act.build source limit ts
  | readTree limit source => do let _ ← Act.readTree limit source
  | readAssignment limit source => do let _ ← Act.readAssignment limit source
  | bindVariable name data => Act.bindVariable name data
  | unbindVariable name => do let _ ← Act.unbindVariable name
  | bindFunction name f => Act.bindFunction name f
  | unbindFunction name => do let _ ← Act.unbindFunction name
  | call name args => do let _ ← Act.names.call name args
  | evaluate limit t => do let _ ← Act.evaluate limit t
  | evaluateText text => do let _ ← Act.evaluateText text
  | assign statement => do let _ ← Act.assign statement

lemma settled_operation {e : Environment} (o : Operation) : Keeps (Session.Settled e) o.act := by
  cases o with
  | limits => exact Act.settled_limits.bind fun _ => .pure _
  | build source limit ts => exact (Act.steady_settled.build source limit ts).bind fun _ => .pure _
  | readTree limit source => exact (Act.steady_settled.readTree limit source).bind fun _ => .pure _
  | readAssignment limit source =>
    exact (Act.steady_settled.readAssignment limit source).bind fun _ => .pure _
  | bindVariable name data => exact Act.settled_bindVariable name data
  | unbindVariable name => exact (Act.settled_unbindVariable name).bind fun _ => .pure _
  | bindFunction name f => exact Act.settled_bindFunction name f
  | unbindFunction name => exact (Act.settled_unbindFunction name).bind fun _ => .pure _
  | call name args =>
    exact (Act.settled_call (Act.settled_source Act.allowance) name args).bind fun _ => .pure _
  | evaluate limit t => exact (Act.settled_evaluate limit t).bind fun _ => .pure _
  | evaluateText text => exact (Act.settled_source _ text).bind fun _ => .pure _
  | assign statement => exact (Act.settled_assign statement).bind fun _ => .pure _

namespace Session

/-- The sessions that come about, as the environment changes and operations are done. -/
inductive Reached : Session → Prop
  | initial : Reached .initial
  | environment {s : Session} (h : Reached s) (e : Environment) :
      Reached { s with environment := e }
  | operation {s : Session} (h : Reached s) (o : Operation) : Reached (after o.act s)

lemma Reached.settled {s : Session} (h : Reached s) : s.Settled s.environment := by
  induction h with
  | initial => exact ⟨rfl, nofun⟩
  | environment h e ih => exact ⟨rfl, ih.right⟩
  | operation h o ih =>
    have hs := settled_operation o _ ih
    exact ⟨rfl, hs.right⟩

end Session

lemma within_of_act {source : Option String} {limit : Option Int} {ts : List Token} {t : Tree}
    {s s' : Session} {n : Int} (hn : ∃ s₁, Act.nesting limit s = .ok n s₁) (h₀ : 0 ≤ n)
    (h : Act.build source limit ts s = .ok t s') : t.Within n 0 := by
  obtain ⟨s₁, hn⟩ := hn
  obtain ⟨n', s₂, hn', hb⟩ := bind_eq_ok.1 h
  rw [hn] at hn'
  cases hn'
  exact Tree.within_of_build (lift_eq_ok.1 hb).1 h₀

/-- **What is built can be evaluated**: under any depth from the limit of nesting on, with any
bindings. The limits of every environment are sound, they are in effect in every session that
comes about, and what a session reads from a text under them, sessions of the same environment
evaluate under them. -/
theorem Session.built_evaluates {σ : Type} (b : Bindings σ) (st : σ) :
    (∀ (s s' : Session) source (n : Int) ts t, 0 ≤ n → Act.build source (some n) ts s = .ok t s' →
      ∀ depth, n ≤ depth → Unhindered b depth t st) ∧
    (∀ e, (Limits.ofEnvironment e).1.Sound e.stack) ∧
    (∀ s : Session, s.Reached → s.Settled s.environment) ∧
    (∀ e (s : Session), s.Settled e → ∃ s', Act.limits s = .ok (Limits.ofEnvironment e).1 s') ∧
    ∀ e (s s₁ s₂ : Session) text t, s.Settled e → Act.readTree none text s = .ok t s₁ →
      s₂.Settled e → ∃ depth s₃, Act.depth none s₂ = .ok depth s₃ ∧ Unhindered b depth t st := by
  refine ⟨?_, Limits.sound_ofEnvironment, fun s h => h.settled, ?_, ?_⟩
  · intro s s' source n ts t hn h depth hd
    have hcap : 0 ≤ (Limits.cap s.environment.stack n).1 := Limits.le_cap _ hn (by omega)
    obtain ⟨s₁, hs₁⟩ := Act.notes_ok (Limits.cap s.environment.stack n).2 s
    have ht := within_of_act ⟨s₁, bind_of_ok hs₁⟩ hcap h
    have hle := Limits.cap_le s.environment.stack n
    exact unhindered b (ht.mono (by omega) (Nat.le_refl 0)) st
  · intro e s hs
    obtain ⟨s', h, -⟩ := Act.limits_ok hs
    exact ⟨s', h⟩
  · intro e s s₁ s₂ text t hs h hs₂
    have hsound := Limits.sound_ofEnvironment e
    obtain ⟨s₃, hlimits, -⟩ := Act.limits_ok hs₂
    refine ⟨_, s₃, bind_of_ok hlimits, ?_⟩
    obtain ⟨ts, s₄, hscan, h⟩ := bind_eq_ok.1 h
    obtain ⟨-, rfl⟩ := lift_eq_ok.1 hscan
    obtain ⟨u, s₅, hbuild, h⟩ := bind_eq_ok.1 h
    obtain ⟨_, s₆, -, h⟩ := bind_eq_ok.1 h
    cases h
    obtain ⟨s₇, hlimits', -⟩ := Act.limits_ok hs
    have ht := within_of_act ⟨s₇, bind_of_ok hlimits'⟩ (by have := hsound.positive; omega) hbuild
    exact unhindered b (ht.mono hsound.covered (Nat.le_refl 0)) st

/-- The text `a^b` in the first session, evaluated there as well, and its tokens under
the limit `1`. -/
theorem Session.built_evaluates_power (st : Session) :
    ∃ ts t s₁ s₂, Session.Settled .initial .initial ∧ Act.readTree none "a^b" .initial = .ok t s₁ ∧
      (∃ depth s₃, Act.depth none .initial = .ok depth s₃ ∧ Unhindered Act.names depth t st) ∧
      Act.build none (some 1) ts .initial = .ok t s₂ ∧ Unhindered Act.names 1 t st := by
  have hs : Session.Settled .initial .initial := Session.Reached.initial.settled
  obtain ⟨ts, hts, hscan⟩ : ∃ ts, ts = [⟨.name, "a", 0⟩, ⟨.binary (.arith .pow), "^", 1⟩,
      ⟨.name, "b", 2⟩, ⟨.stop, "", 3⟩] ∧ Token.scan "a^b" = .ok ts := by
    refine ⟨_, rfl, ?_⟩
    rw [Token.scan_eq]
    rfl
  obtain ⟨t, s₁, s₂, h, hb⟩ : ∃ t s₁ s₂, Act.readTree none "a^b" .initial = .ok t s₁ ∧
      Act.build none (some 1) ts .initial = .ok t s₂ := by
    rw [Act.readTree, hscan, hts]
    exact ⟨.binary (.arith .pow) (.name "a") (.name "b"), _, _, rfl, rfl⟩
  have hall := Session.built_evaluates Act.names st
  exact ⟨ts, t, s₁, s₂, hs, h, hall.2.2.2.2 _ _ _ _ _ t hs h hs, hb,
    hall.1 _ _ none 1 ts t (by decide) hb 1 (by decide)⟩

end Reckon
