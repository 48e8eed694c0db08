import Reckon.Proofs.Limits.Recent
import Reckon.Proofs.Session.Limits

/-!
What a session reports about its settings. The limits in effect are those of the environment,
whatever was asked before, and the notices of an environment are made whenever its limits are not
remembered. So a bad setting is reported once for each environment that it is part of, and again
when that has been forgotten.
-/

namespace Reckon

open Reckon.Action

/-! ### Bad settings -/

/-- The text is neither blank nor a positive number. -/
def Setting.Bad (raw : String) : Prop :=
  raw.toList.all Text.blank = false ∧ ∀ n, Text.readInt raw = .ok n → n < 1

namespace Limits

/-- The settings that are said to be ignored. -/
def ignored (notices : List Notice) : List (Setting × String) :=
  notices.filterMap Notice.ignored?

variable {s : Setting} {raw : String}

lemma ignored_bad (h : Setting.Bad raw) : ignored (setting s (some raw)).2 = [(s, raw)] := by
  obtain ⟨hblank, hbad⟩ := h
  rw [setting, if_neg (by simp [hblank])]
  split
  · rfl
  · next n hn =>
    rw [if_pos (hbad n hn)]
    rfl

lemma ignored_good (h : ¬ Setting.Bad raw) : ignored (setting s (some raw)).2 = [] := by
  rw [setting]
  split
  · rfl
  · next hblank =>
    split
    · next hn => exact absurd ⟨by simpa using hblank, fun n h => by simp [hn] at h⟩ h
    · next n hn =>
      split
      · next hlt => exact absurd ⟨by simpa using hblank, fun m hm => by simp_all⟩ h
      · rfl

lemma ignored_cap (stack requested : Int) : ignored (cap stack requested).2 = [] := by
  rw [cap]
  split <;> rfl

/-- The notices of an environment ignore settings as each of the two does. -/
lemma ignored_ofEnvironment (e : Environment) :
    ignored (ofEnvironment e).2 = ignored (setting .nesting e.nesting).2 ++
      ignored (setting .depth e.depth).2 := by
  have hcap := ignored_cap e.stack (setting .nesting e.nesting).1
  simp only [ofEnvironment, ignored] at hcap ⊢
  split <;> simp [hcap, Notice.ignored?]

lemma bad_of_mem_setting {t : Setting} {text : Option String}
    (h : (s, raw) ∈ ignored (setting t text).2) : Setting.Bad raw := by
  cases text with
  | none => simp [setting, ignored] at h
  | some text =>
    by_cases htext : Setting.Bad text
    · rw [ignored_bad htext, List.mem_singleton] at h
      cases h
      exact htext
    · simp [ignored_good htext] at h

/-- What is ignored is bad. -/
lemma bad_of_mem_ofEnvironment {e : Environment} (h : (s, raw) ∈ ignored (ofEnvironment e).2) :
    Setting.Bad raw := by
  rw [ignored_ofEnvironment, List.mem_append] at h
  exact h.elim bad_of_mem_setting bad_of_mem_setting

lemma count_setting (h : Setting.Bad raw) (s t : Setting) (text : Option String) :
    (ignored (setting t text).2).count (s, raw) = if t = s ∧ text = some raw then 1 else 0 := by
  cases text with
  | none => simp [setting, ignored]
  | some text =>
    by_cases htext : Setting.Bad text
    · rw [ignored_bad htext, List.count_singleton]
      simp
    · have hne : text ≠ raw := fun heq => htext (heq ▸ h)
      simp [ignored_good htext, hne]

/-- A bad setting is ignored once by the environments that it is part of, and by no others. -/
lemma count_ofEnvironment (h : Setting.Bad raw) (s : Setting) (e : Environment) :
    (ignored (ofEnvironment e).2).count (s, raw) = if e.get s = some raw then 1 else 0 := by
  rw [ignored_ofEnvironment, List.count_append, count_setting h, count_setting h]
  cases s <;> simp [Environment.get] <;> rfl

lemma ignored_flatMap {α : Type} (f : α → List Notice) (l : List α) :
    ignored (l.flatMap f) = l.flatMap fun a => ignored (f a) :=
  List.filterMap_flatMap

lemma count_ignored (h : Setting.Bad raw) (s : Setting) (es : List Environment) :
    (ignored (es.flatMap fun e => (ofEnvironment e).2)).count (s, raw) =
      es.countP (·.get s = some raw) := by
  rw [ignored_flatMap]
  induction es with
  | nil => rfl
  | cons e es ih =>
    rw [List.flatMap_cons, List.count_append, ih, count_ofEnvironment h, List.countP_cons,
      Nat.add_comm]
    simp

end Limits

/-! ### Runs -/

namespace Act

/-- Looks at the limits in an environment. -/
def ask (e : Environment) : Act Limits := do
  modify fun s => { s with environment := e }
  limits

/-- The session remembers the limits of the latest environments that it was asked in. -/
def Recalls (h : List Environment) (s : Session) : Prop :=
  s.limits.Holds (fun e => (Limits.ofEnvironment e).1) memory h

/-- What is reported of an environment after a history of questions. -/
def told (h : List Environment) (e : Environment) : List Notice :=
  if e ∈ (Recent.latest h).take memory then [] else (Limits.ofEnvironment e).2

/-- A question that comes after others is answered by its environment, reported and remembered. -/
lemma ask_apply {h : List Environment} {s : Session} (hs : Recalls h s) (e : Environment) :
    ∃ s', ask e s = .ok (Limits.ofEnvironment e).1 s' ∧
      s'.journal.toList = s.journal.toList ++ told h e ∧ Recalls (e :: h) s' := by
  let asked : Session :=
    { s with
      environment := e
      limits := s.limits.use memory e (Limits.ofEnvironment e).1 }
  refine ⟨{ asked with journal := s.journal ++ (told h e).toArray }, ?_, by simp, hs.use e⟩
  have hanswer := hs.find? e
  have hnotes : ((told h e).forM note >>= fun _ => return (Limits.ofEnvironment e).1 : Act Limits)
      asked = _ :=
    bind_of_ok (notes_apply (told h e) asked)
  change limits { s with environment := e } = _
  rw [limits, get_bind]
  split at hanswer
  · next hold =>
    rw [told, if_pos hold] at hnotes ⊢
    simp only [hanswer]
    exact hnotes
  · next hnew =>
    rw [told, if_neg hnew] at hnotes ⊢
    simp only [hanswer]
    exact hnotes

/-- A run of questions is answered by their environments. Reported are those that are not remembered
when they are asked in. -/
lemma asks_apply {h : List Environment} {s : Session} (hs : Recalls h s) (es : List Environment) :
    ∃ s', es.mapM ask s = .ok (es.map fun e => (Limits.ofEnvironment e).1) s' ∧
      s'.journal.toList = s.journal.toList ++
        (Recent.fresh memory h es).flatMap fun e => (Limits.ofEnvironment e).2 := by
  induction es generalizing h s with
  | nil => exact ⟨s, rfl, (List.append_nil _).symm⟩
  | cons e es ih =>
    obtain ⟨s₁, hask, hjournal₁, hs₁⟩ := ask_apply hs e
    obtain ⟨s₂, hasks, hjournal₂⟩ := ih hs₁
    refine ⟨s₂, ?_, ?_⟩
    · rw [List.mapM_cons, bind_of_ok hask, bind_of_ok hasks]
      rfl
    · rw [hjournal₂, hjournal₁, Recent.fresh, told]
      split <;> simp

end Act

/-- A new session answers questions in any environments, each by its own environment, and reports
the environments that are not remembered when it is asked in them. What it ignores is bad; a bad
setting is ignored as often as an environment with its text is reported, which is once for each such
environment if all of them can be remembered. -/
theorem Session.notices_exact (es : List Environment) :
    ∃ s, es.mapM Act.ask .initial = .ok (es.map fun e => (Limits.ofEnvironment e).1) s ∧
      s.journal.toList = ((Recent.fresh Act.memory [] es).flatMap fun e =>
        (Limits.ofEnvironment e).2) ∧
      (∀ p ∈ Limits.ignored s.journal.toList, Setting.Bad p.2) ∧
      ∀ t raw, Setting.Bad raw →
        (Limits.ignored s.journal.toList).count (t, raw) =
          (Recent.fresh Act.memory [] es).countP (·.get t = some raw) ∧
        (es.toFinset.card ≤ Act.memory → (Limits.ignored s.journal.toList).count (t, raw) =
          (es.toFinset.filter (·.get t = some raw)).card) := by
  have hempty : Act.Recalls [] .initial := Recent.holds_empty _ _
  obtain ⟨s, hasks, hjournal⟩ := Act.asks_apply hempty es
  rw [show Session.initial.journal.toList = [] from rfl, List.nil_append] at hjournal
  refine ⟨s, hasks, hjournal, ?_, fun t raw hbad => ⟨?_, fun hroom => ?_⟩⟩
  · rintro ⟨t, raw⟩ hp
    rw [hjournal, Limits.ignored_flatMap, List.mem_flatMap] at hp
    obtain ⟨e, -, he⟩ := hp
    exact Limits.bad_of_mem_ofEnvironment he
  · rw [hjournal, Limits.count_ignored hbad]
  · rw [hjournal, Limits.count_ignored hbad, Recent.countP_of_room hroom]

/-- The text is no number, and the session is asked twice in the one environment that has it. -/
theorem Session.notices_once : Setting.Bad "abc" ∧ ∃ s,
    [⟨some "abc", none, 1000⟩, ⟨some "abc", none, 1000⟩].mapM Act.ask .initial =
      .ok [⟨64, 256⟩, ⟨64, 256⟩] s ∧
      (Limits.ignored s.journal.toList).count (.nesting, "abc") = 1 := by
  have hbad : Setting.Bad "abc" := ⟨by decide, nofun⟩
  obtain ⟨s, hasks, -, -, hcount⟩ :=
    Session.notices_exact [⟨some "abc", none, 1000⟩, ⟨some "abc", none, 1000⟩]
  exact ⟨hbad, s, hasks, (hcount .nesting "abc" hbad).2 (by decide)⟩

/-- The text stays as it is while the other setting changes, and is ignored twice. -/
theorem Session.notices_twice : Setting.Bad "abc" ∧ ∃ s,
    [⟨some "abc", none, 1000⟩, ⟨some "abc", some "300", 1000⟩].mapM Act.ask .initial =
        .ok [⟨64, 256⟩, ⟨64, 300⟩] s ∧
      (Limits.ignored s.journal.toList).count (.nesting, "abc") = 2 :=
  ⟨⟨by decide, nofun⟩, _, rfl, rfl⟩

end Reckon
