import Reckon.Proofs.Token.Literals
import Reckon.Proofs.Tree.Written

/-!
What a source can give. The tokens of a scan have texts that suit their kinds and end with their one
`stop`, so a source gives a well-formed tree, or an error of its tokens, its grammar or its nesting;
so does the source of an assignment. The one other error is that an integer of the source has more
digits than are read.
-/

namespace Reckon

/-- The error is one that a source brings about. -/
def Error.OfSource : Error → Prop
  | .token .. | .parse .. | .nesting .. => True
  | _ => False

/-- The error is that an integer among the tokens has more digits than are read. -/
def Error.Overlong (ts : List Token) (e : Error) : Prop :=
  ∃ t ∈ ts, t.kind = .int ∧ Text.maxDigits < t.text.length ∧ e = .fault (.digits t.text.length)

/-- The error is one that a source brings about, or an integer of this source has
too many digits. -/
def Error.OfReading (source : String) (e : Error) : Prop :=
  e.OfSource ∨ ∃ ts, Token.scan source = .ok ts ∧ e.Overlong ts

/-- A result as `Q` says, or an error as `E` says. -/
def Sourced {α : Type} (E : Error → Prop) (Q : α → Prop) : Except Error α → Prop
  | .ok a => Q a
  | .error e => E e

section

variable {α β : Type} {E E' : Error → Prop} {Q : α → Prop} {R : β → Prop} {x : Except Error α}

lemma Sourced.mono (h : Sourced E Q x) (hE : ∀ e, E e → E' e) : Sourced E' Q x := by
  cases x with
  | ok a => exact h
  | error e => exact hE e h

lemma Sourced.bind {f : α → Except Error β} (h : Sourced E Q x)
    (hf : ∀ a, x = .ok a → Q a → Sourced E R (f a)) : Sourced E R (x >>= f) := by
  cases x with
  | ok a => exact hf a rfl h
  | error e => exact h

end

/-! ### Tokens -/

namespace Token

open Grammar (AllSound)

/-- Tokens with texts that suit their kinds, and one `stop` behind them. -/
def Ended (ts : List Token) : Prop :=
  ∃ w pos, ts = w ++ [⟨.stop, "", pos⟩] ∧ AllSound w ∧ ∀ k ∈ w, k.kind ≠ .stop

lemma Ended.cons {k : Token} {ts : List Token} (h : Ended ts) (hk : Sound k.kind k.text)
    (hne : k.kind ≠ .stop) : Ended (k :: ts) := by
  obtain ⟨w, pos, rfl, hw, hs⟩ := h
  exact ⟨k :: w, pos, rfl, List.forall_mem_cons.2 ⟨hk, hw⟩, List.forall_mem_cons.2 ⟨hne, hs⟩⟩

lemma Ended.head {k : Token} {ts : List Token} (h : Ended (k :: ts)) : Sound k.kind k.text := by
  obtain ⟨w, pos, hts, hw, -⟩ := h
  cases w with
  | nil => cases hts; trivial
  | cons k' w => cases hts; exact (List.forall_mem_cons.1 hw).1

/-- A token of another kind is not the last one. -/
lemma Ended.tail {k : Token} {ts : List Token} (h : Ended (k :: ts)) (hne : k.kind ≠ .stop) :
    Ended ts := by
  obtain ⟨w, pos, hts, hw, hs⟩ := h
  cases w with
  | nil => cases hts; contradiction
  | cons k' w =>
    cases hts
    exact ⟨w, pos, rfl, (List.forall_mem_cons.1 hw).2, (List.forall_mem_cons.1 hs).2⟩

lemma Ended.stop {ts : List Token} (h : Ended ts) : ∃ t ∈ ts, t.kind = .stop := by
  obtain ⟨w, pos, rfl, -⟩ := h
  exact ⟨⟨.stop, "", pos⟩, by simp, rfl⟩

lemma Ended.body {ts : List Token} (h : Ended ts) : AllSound (Grammar.body ts) := by
  obtain ⟨w, pos, rfl, hw, hs⟩ := h
  have hbody : Grammar.body (w ++ [⟨.stop, "", pos⟩]) = w := by
    rw [Grammar.body_append hs]
    exact List.append_nil w
  rwa [hbody]

lemma ended_read {after : Bool} {pos : Nat} {cs : List Char} {ts : List Token}
    (h : read after pos cs = .ok ts) : Ended ts := by
  replace h := scanned_read h
  induction h with
  | @stop _ pos => exact ⟨[], pos, rfl, List.forall_mem_nil _, List.forall_mem_nil _⟩
  | blank _ _ ih => exact ih
  | token _ hl _ ih => exact ih.cons (sound_lexeme hl) (lexeme_kind hl)

lemma scan_error {source : String} {e : Error} (h : scan source = .error e) :
    ∃ f p, e = .token f p := by
  unfold scan at h
  split at h
  · cases h
  · cases h
    exact ⟨_, _, rfl⟩

lemma ended_scan (source : String) : Sourced Error.OfSource Ended (scan source) := by
  unfold scan
  cases h : read false 0 source.toList with
  | ok ts => exact ended_read h
  | error e => trivial

/-- The literal of a token whose text suits its kind fails only as an integer of too many digits. -/
lemma digits_of_fault {k : Token} {f : Fault} (h : Sound k.kind k.text)
    (hf : Builder.literal? k = some (.error f)) :
    k.kind = .int ∧ Text.maxDigits < k.text.length ∧ f = .digits k.text.length := by
  obtain ⟨kind, text, pos⟩ := k
  cases kind with
  | int =>
    obtain ⟨ds, rfl, hds, hne, hle⟩ := h
    have hle' : Text.numeral ds ≤ 2 ^ 63 - 1 := by rw [greatest] at hle; omega
    rw [literal_digits hds hne hle'] at hf
    rw [String.length_ofList]
    split at hf
    · next hlong =>
      cases hf
      exact ⟨rfl, hlong, rfl⟩
    · cases hf
  | float =>
    obtain ⟨x, hx, -⟩ := h
    simp [Builder.literal?, hx] at hf
  | _ => cases hf

end Token

/-! ### Trees -/

lemma Value.Written.wellFormed {v : Value} (h : v.Written) : v.WellFormed := by
  cases v with
  | int n => exact ⟨by have := h.1; rw [least]; omega, h.2⟩
  | tuple items => exact h.elim
  | float | boolean | string | empty => trivial

namespace Tree

mutual

lemma Written.wellFormed {t : Tree} (h : t.Written) : t.WellFormed := by
  match t with
  | literal v => exact Value.Written.wellFormed h
  | name n => trivial
  | unary op t => exact Written.wellFormed (t := t) h
  | binary op l r => exact ⟨Written.wellFormed h.1, Written.wellFormed h.2⟩
  | call f ts => exact AllWritten.wellFormed h.2
  | tuple ts => exact ⟨h.1, AllWritten.wellFormed h.2⟩

lemma AllWritten.wellFormed {ts : List Tree} (h : AllWritten ts) : AllWellFormed ts := by
  match ts with
  | [] => trivial
  | t :: ts => exact ⟨Written.wellFormed h.1, AllWritten.wellFormed h.2⟩

end

open Grammar (AllSound body)

variable {source : Option String} {limit : Int} {ts : List Token}

/-- Tokens with texts that suit their kinds make a well-formed tree, or are refused as such or for
an integer of too many digits. -/
lemma sourced_build (source : Option String) (limit : Int) (h : AllSound (body ts)) :
    Sourced (fun e => e.OfSource ∨ e.Overlong ts) WellFormed (build source limit ts) := by
  cases hb : build source limit ts with
  | ok t => exact (Grammar.written_sequence (Grammar.sequence_of_build hb) h).wellFormed
  | error e =>
    rcases build_error_cases hb with ⟨f, site, rfl⟩ | ⟨r, c, hr, rfl⟩
    · exact .inl trivial
    change (r.error source).OfSource ∨ (r.error source).Overlong ts
    rcases Grammar.explained_reads hr trivial with (⟨f, hf⟩ | ⟨k, hk, f, hf, hcause⟩) | ⟨hf, -⟩
    · simp [Refusal.error, hf, Error.OfSource]
    · obtain ⟨hkind, hlength, rfl⟩ := Token.digits_of_fault (h k hk) hf
      exact .inr ⟨k, (List.takeWhile_sublist _).subset hk, hkind,
        hlength, by simp [Refusal.error, hcause]⟩
    · simp [Refusal.error, hf, Error.OfSource]

/-- Tokens are no assignment, or they are a name, an equality sign and the value. -/
lemma assigned_cases (source : String) (ts : List Token) :
    (∃ f site, assigned source ts = .error (.parse f site)) ∨
      ∃ n t value, ts = n :: t :: value ∧ n.kind = .name ∧ t.kind = .assign ∧
        assigned source ts = .ok (n.text, value) := by
  rcases ts with _ | ⟨n, _ | ⟨t, value⟩⟩
  · exact .inl ⟨_, _, rfl⟩
  · exact .inl ⟨_, _, rfl⟩
  unfold assigned
  simp only
  split
  · exact .inl ⟨_, _, rfl⟩
  split
  · exact .inl ⟨_, _, rfl⟩
  split
  · exact .inl ⟨_, _, rfl⟩
  next hn ht _ => exact .inr ⟨n, t, value, rfl, not_not.1 hn, not_not.1 ht, rfl⟩

/-- The value of an assignment is what follows its first two tokens, and there is more of it
than the end. -/
lemma assigned_spec (source : String) (h : Token.Ended ts) :
    Sourced Error.OfSource (fun r => Token.IsName r.1 ∧ Token.Ended r.2 ∧ r.2 ⊆ ts)
      (assigned source ts) := by
  rcases assigned_cases source ts with ⟨f, site, he⟩ | ⟨n, t, value, rfl, hn, ht, hok⟩
  · rw [he]
    trivial
  · rw [hok]
    have hvalue := (h.tail (by rw [hn]; decide)).tail (by rw [ht]; decide)
    exact ⟨Grammar.isName_of_sound hn h.head, hvalue, fun k hk => by simp [hk]⟩

/-- A source gives a well-formed tree or an error of its own. -/
theorem sourced_ofSource (limit : Int) (source : String) :
    Sourced (Error.OfReading source) WellFormed (ofSource limit source) := by
  refine ((Token.ended_scan source).mono fun e => .inl).bind fun ts hts h => ?_
  exact (sourced_build (some source) limit h.body).mono fun e => .imp_right fun he => ⟨ts, hts, he⟩

/-- The source of an assignment gives a name and a well-formed tree, or an error of its own. -/
theorem sourced_ofAssignment (limit : Int) (source : String) :
    Sourced (Error.OfReading source) (fun r => Token.IsName r.1 ∧ r.2.WellFormed)
      (ofAssignment limit source) := by
  refine ((Token.ended_scan source).mono fun e => .inl).bind fun ts hts h => ?_
  refine ((assigned_spec source h).mono fun e => .inl).bind ?_
  rintro ⟨n, value⟩ - ⟨hn, hv, hsub⟩
  refine (Sourced.mono (sourced_build (some source) limit hv.body) fun e => .imp_right fun he =>
    ?_).bind
    fun _ _ ht => ⟨hn, ht⟩
  obtain ⟨t, ht, he⟩ := he
  exact ⟨ts, hts, t, hsub ht, he⟩

end Tree

end Reckon
