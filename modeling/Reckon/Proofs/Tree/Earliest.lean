import Reckon.Proofs.Tree.Nesting
import Reckon.Proofs.Tree.Unseen

/-!
The earliest refusal. Tokens are refused at the first one that no expression goes on with: the
tokens passed by then begin some expression, and with that token behind them they begin none. An
expression that they begin is found where the builder stands: an operand is filled in, and each rule
that waits for more closes its parenthesis.
-/

namespace Reckon

open Token (Kind)

/-! ### Parentheses -/

/-- The opening parentheses that wait for a closing one, innermost first, after one more token. -/
def Token.track (ks : List Token) (t : Token) : List Token :=
  match t.kind with
  | .opening => t :: ks
  | .closing => ks.tail
  | _ => ks

/-- The opening parentheses of the tokens that no closing one follows for, innermost first. -/
def Token.unclosed (w : List Token) : List Token :=
  w.foldl track []

/-- The fault is that of an opening parenthesis which is not closed. -/
def ParseFault.unmatched : ParseFault → Bool
  | unmatchedOpen | unmatchedCall _ => true
  | _ => false

namespace Grammar

open Token (track)

/-- Every parenthesis among the tokens has its counterpart there. -/
def Closed (w : List Token) : Prop :=
  ∀ ks, w.foldl track ks = ks

section

variable {k o c : Token} {v w : List Token}

lemma Closed.append (hv : Closed v) (hw : Closed w) : Closed (v ++ w) := by
  intro ks
  rw [List.foldl_append, hv, hw]

lemma closed_of_kind (ho : k.kind ≠ .opening) (hc : k.kind ≠ .closing) : Closed [k] := by
  intro ks
  rw [List.foldl_cons, List.foldl_nil, track]
  split <;> trivial

lemma Closed.cons (ho : k.kind ≠ .opening) (hc : k.kind ≠ .closing) (hw : Closed w) :
    Closed (k :: w) :=
  (closed_of_kind ho hc).append hw

lemma Closed.group (ho : o.kind = .opening) (hw : Closed w) (hc : c.kind = .closing) :
    Closed (o :: (w ++ [c])) := by
  intro ks
  rw [List.foldl_cons, List.foldl_append, hw, List.foldl_cons, List.foldl_nil, track, hc, track, ho]
  rfl

/-- Behind an opening parenthesis and closed tokens this parenthesis is the innermost one
that is open. -/
lemma Closed.unclosed (ho : o.kind = .opening) (hw : Closed w) :
    Token.unclosed (v ++ o :: w) = o :: Token.unclosed v := by
  rw [Token.unclosed, List.foldl_append, List.foldl_cons, hw, track, ho]
  rfl

end

mutual

lemma closed_sequence {w : List Token} {t : Tree} (h : Sequence w t) : Closed w := by
  match h with
  | .one h => exact closed_level h
  | .several hs => exact closed_elements hs

lemma closed_elements {w : List Token} {ts : List Tree} (h : Elements w ts) : Closed w := by
  match h with
  | .one h => exact closed_level h
  | .cons h hk hs =>
    exact (closed_level h).append (.cons (by simp [hk]) (by simp [hk]) (closed_elements hs))

lemma closed_level {n : Nat} {w : List Token} {t : Tree} (h : Level n w t) : Closed w := by
  match h with
  | .left _ _ h hk h' | .right _ _ h hk h' =>
    exact (closed_level h).append (.cons (by simp [hk]) (by simp [hk]) (closed_level h'))
  | .up h => exact closed_level h
  | .signed h => exact closed_signed h

lemma closed_signed {w : List Token} {t : Tree} (h : Signed w t) : Closed w := by
  match h with
  | .unary hk h => exact .cons (by simp [hk]) (by simp [hk]) (closed_signed h)
  | .primary h => exact closed_primary h

lemma closed_primary {w : List Token} {t : Tree} (h : Primary w t) : Closed w := by
  match h with
  | .literal h => cases h <;> exact closed_of_kind (by simp [*]) (by simp [*])
  | .name hk => exact closed_of_kind (by simp [hk]) (by simp [hk])
  | .call_none hk ho hc =>
    exact .cons (by simp [hk]) (by simp [hk]) (.group (w := []) ho (fun _ => rfl) hc)
  | .call hk ho hs hc =>
    exact .cons (by simp [hk]) (by simp [hk]) (.group ho (closed_elements hs) hc)
  | .unit ho hc => exact .group (w := []) ho (fun _ => rfl) hc
  | .group ho h hc => exact .group ho (closed_sequence h) hc

end

end Grammar

/-! ### What a refusal leaves -/

namespace Builder

open Grammar

/-- A fault of the tokens `w`, which end at the cursor, and what it points at: the token there, or
at the end of all tokens the innermost parenthesis that is open. -/
inductive Blames (w : List Token) (c : Cursor) : ParseFault → Nat → Prop
  | current {f} (hf : f.unmatched = false) : Blames w c f c.current.pos
  | unclosed {f u o v} (hf : f.unmatched) (hc : c.current.kind = .stop) (hw : w = u ++ o :: v)
    (ho : o.kind = .opening) (hv : Closed v) : Blames w c f o.pos

/-- A token that may be filled in: it opens no level. -/
def Filler (t : Token) : Prop :=
  t.kind = .yes ∨ t.kind = .closing

/-- The operand that is filled in. -/
def operand : Token :=
  ⟨.yes, "true", 0⟩

/-- The closing parenthesis that is filled in. -/
def closer : Token :=
  ⟨.closing, ")", 0⟩

lemma filler_operand : ∀ t ∈ [operand], Filler t :=
  List.forall_mem_singleton.2 (.inl rfl)

lemma filler_closer : ∀ t ∈ [closer], Filler t :=
  List.forall_mem_singleton.2 (.inr rfl)

lemma primary_operand : Primary [operand] (.literal (.boolean true)) :=
  .literal (.yes rfl)

/-- If the tokens are refused as no expression, then those that are passed can be filled up to
what `P` says. -/
def Breaks {α : Type} (P : List Token → Prop) (c : Cursor) : Result α → Prop
  | .ok .. => True
  | .error e c' => ∀ f, e.cause = .parse f →
    ∃ w, c.Passes w c' ∧ (∃ v, (∀ t ∈ v, Filler t) ∧ P (w ++ v)) ∧ Blames w c' f e.pos

/-- What the tokens of a rule are. -/
def Phrase : Rule → List Token → Prop
  | .sequence, w => ∃ t, Sequence w t
  | .chain least, w => least ≤ 9 → ∃ t, Level least w t
  | .signed, w => ∃ t, Signed w t
  | .primary, w | .group, w | .call, w => ∃ t, Primary w t

section

variable {α β : Type} {limit : Int} {d : Nat} {c c' c'' : Cursor} {e : Refusal} {u : List Token}
  {P Q : List Token → Prop}

lemma Blames.behind {w : List Token} {f : ParseFault} {pos : Nat} (h : Blames w c f pos)
    (u : List Token) : Blames (u ++ w) c f pos := by
  cases h with
  | current hf => exact .current hf
  | unclosed hf hc hw ho hv => exact .unclosed hf hc (by rw [hw, List.append_assoc]) ho hv

/-- A refusal behind tokens that are passed, where `v` is filled in behind what the inner
one waits for. -/
lemma Breaks.filled {v : List Token} (h : Breaks P c' (.error e c'' : Result α))
    (hu : c.Passes u c') (hv : ∀ t ∈ v, Filler t) (hQ : ∀ w, P w → Q (u ++ (w ++ v))) :
    Breaks Q c (.error e c'' : Result β) := by
  intro f hf
  obtain ⟨w, hw, ⟨v', hv', hP⟩, hblames⟩ := h f hf
  refine ⟨u ++ w, hu.trans hw, ⟨v' ++ v, List.forall_mem_append.2 ⟨hv', hv⟩, ?_⟩, hblames.behind u⟩
  have hfilled := hQ _ hP
  rwa [List.append_assoc w, ← List.append_assoc u] at hfilled

lemma Breaks.behind (h : Breaks P c' (.error e c'' : Result α)) (hu : c.Passes u c')
    (hQ : ∀ w, P w → Q (u ++ w)) : Breaks Q c (.error e c'' : Result β) :=
  h.filled hu (List.forall_mem_nil _) fun w hw => by rw [List.append_nil]; exact hQ w hw

lemma Breaks.inside (h : Breaks P c' (.error e c'' : Result α)) (hu : c.Passes u c')
    (hQ : ∀ w, P w → Q (u ++ (w ++ [closer]))) : Breaks Q c (.error e c'' : Result β) :=
  h.filled hu filler_closer hQ

lemma breaks_deep {t : Token} (he : enter limit d t c = .error e c') :
    Breaks P c'' (.error e c' : Result α) := by
  intro f hf
  rw [enter_eq] at he
  split at he
  · cases he
    cases hf
  · cases he

lemma unmatched_misplaced (c : Cursor) : c.misplaced.unmatched = false := by
  have halone : (Cursor.misplaced.alone c.current).unmatched = false := by
    unfold Cursor.misplaced.alone
    split <;> rfl
  unfold Cursor.misplaced
  simp only
  repeat' split
  all_goals first | rfl | exact halone

/-- In place of a token that begins no operand there may be an operand. -/
lemma breaks_misplaced :
    Breaks (Phrase .primary) c (.error ⟨.parse c.misplaced, c.current.pos⟩ c : Result α) := by
  rintro f ⟨⟩
  exact ⟨[], .refl c, ⟨_, filler_operand, _, primary_operand⟩, .current (unmatched_misplaced c)⟩

/-- In place of a token that closes nothing there may be the parenthesis that is missing. -/
lemma breaks_close {f : ParseFault} {o : Token} {w : List Token} (hu : c.Passes (u ++ o :: w) c')
    (ho : o.kind = .opening) (hw : Closed w) (hf : f.unmatched) (hP : P (u ++ o :: w ++ [closer]))
    (h : close f o c' = .error e c'') : Breaks P c (.error e c'' : Result α) := by
  obtain ⟨rfl, ⟨hk, rfl⟩ | ⟨-, -, rfl⟩⟩ := close_eq_error.1 h
  · rintro _ ⟨⟩
    exact ⟨_, hu, ⟨_, filler_closer, hP⟩, .unclosed hf hk rfl ho hw⟩
  · rintro _ ⟨⟩
    exact ⟨_, hu, ⟨_, filler_closer, hP⟩, .current (unmatched_misplaced c')⟩

end

section

variable {limit : Int}

mutual

-- By induction on the build that is refused: what is read before the refusal are phrases already,
-- and whatever the part that is refused can be filled up to is what the rule around it waits for.
lemma breaks_reads {r : Rule} {d : Nat} {c : Cursor} {res : Result Tree} (h : Reads limit r d c res)
    (hb : Begins r c) : Breaks (Phrase r) c res := by
  match res, h with
  | .ok .., _ => trivial
  | .error .., .sequence_first_refused h =>
    exact (breaks_reads h trivial).behind (.refl c) fun w hw => (hw (by decide)).imp fun _ => .one
  | .error .., .sequence_later_refused h hc hs =>
    obtain ⟨v, hv, hl, -⟩ := sound_reads h trivial (by decide)
    refine (breaks_more hs).behind hv ?_
    rintro _ ⟨k, w, ts, rfl, hk, hts⟩
    have hall := Elements.cons hl hk hts
    cases hts <;> exact ⟨_, .several hall⟩
  | .error .., .chain h hs =>
    obtain ⟨v, hv, hl⟩ := sound_reads h trivial
    exact (breaks_climbs hs).behind hv fun w hw hle => hw 9 v (.signed hl) hle (loose_signed _)
  | .error .., .chain_refused h =>
    refine (breaks_reads h trivial).behind (.refl c) ?_
    rintro w ⟨t, ht⟩ hle
    exact ⟨t, (Level.signed ht).of_le hle⟩
  | .error .., .signed_deep hk he => exact breaks_deep he
  | .error .., .signed_refused hk he h =>
    have hu := (Cursor.Passes.of_kind hk nofun).trans (enter_passes he)
    exact (breaks_reads h trivial).behind hu fun w hw => hw.imp' _ fun _ => .unary hk
  | .error .., .unsigned hk h =>
    exact (breaks_reads h trivial).behind (.refl c) fun w hw => hw.imp fun _ => .primary
  | .error .., .literal_fault h => nofun
  | .error .., .primary_call hk hn h => exact breaks_reads (r := .call) h ⟨hk, hn⟩
  | .error .., .primary_group hk h => exact breaks_reads (r := .group) h hk
  | .error .., .misplaced hl ho hn => exact breaks_misplaced
  | .error .., .group_deep hc he => exact breaks_deep he
  | .error .., .group_refused hc he h =>
    have hu := (Cursor.Passes.of_kind hb nofun).trans (enter_passes he)
    exact (breaks_reads h trivial).inside hu fun w hw => hw.imp fun _ ht => .group hb ht rfl
  | .error .., .group_open hc he h hend =>
    have hu := (Cursor.Passes.of_kind hb nofun).trans (enter_passes he)
    obtain ⟨w, hw, ht⟩ := sound_reads h trivial
    exact breaks_close (u := []) (hu.trans hw) hb (closed_sequence ht) rfl
      ⟨_, .group hb ht rfl⟩ hend
  | .error .., .call_deep he => exact breaks_deep he
  | .error .., .call_refused he h =>
    obtain ⟨hk, ho⟩ := hb
    rw [← Cursor.current_advance] at ho
    have hu := (Cursor.Passes.of_kind hk nofun).trans
      ((Cursor.Passes.of_kind ho nofun).trans (enter_passes he))
    exact (breaks_arguments h).inside hu fun w hw => hw.imp' _ fun _ hts => .call hk ho hts rfl
  | .error .., .call_open he h hend =>
    obtain ⟨hk, ho⟩ := hb
    rw [← Cursor.current_advance] at ho
    have hu := (Cursor.Passes.of_kind hk nofun).trans
      ((Cursor.Passes.of_kind ho nofun).trans (enter_passes he))
    rcases sound_arguments h with ⟨rfl, rfl⟩ | ⟨w, hw, hts⟩
    · exact breaks_close (u := [_]) hu ho (fun _ => rfl) rfl ⟨_, .call_none hk ho rfl⟩ hend
    · exact breaks_close (u := [_]) (hu.trans hw) ho (closed_elements hts) rfl
        ⟨_, .call hk ho hts rfl⟩ hend

lemma breaks_more {d : Nat} {c : Cursor} {res : Result (List Tree)} (h : More limit d c res) :
    Breaks (fun w => ∃ k v ts, w = k :: v ∧ k.kind = .comma ∧ Elements v ts) c res := by
  match res, h with
  | .ok .., _ => trivial
  | .error .., .first_refused hc h =>
    refine (breaks_reads h trivial).behind (.of_kind hc nofun) fun w hw => ?_
    obtain ⟨t, ht⟩ := hw (by decide)
    exact ⟨_, w, _, rfl, hc, .one ht⟩
  | .error .., .later_refused hc h hs =>
    obtain ⟨v, hv, hl, -⟩ := sound_reads h trivial (by decide)
    refine (breaks_more hs).behind ((Cursor.Passes.of_kind hc nofun).trans hv) ?_
    rintro _ ⟨k, w, ts, rfl, hk, hts⟩
    exact ⟨_, _, _, rfl, hc, .cons hl hk hts⟩

lemma breaks_climbs {least d : Nat} {l : Tree} {c : Cursor} {res : Result Tree}
    (h : Climbs limit least d l c res) :
    Breaks (fun w => ∀ m u, Level m u l → least ≤ m → Loose m c.current.kind →
      ∃ t, Level least (u ++ w) t) c res := by
  match res, h with
  | .ok .., _ => trivial
  | .error .., .step hk hn h hs =>
    obtain ⟨v, hv, ho⟩ := sound_operand h hk
    refine (breaks_climbs hs).behind hv fun w hw m u hl hm hloose => ?_
    obtain ⟨hl', hloose'⟩ := ho m u _ hl hloose
    rw [← List.append_assoc]
    exact hw _ _ hl' hn hloose'
  | .error .., .refused hk hn h =>
    refine (breaks_operand h hk).behind (.refl c) fun w hw m u hl hm hloose => ?_
    obtain ⟨r, hr⟩ := hw m u _ hl hloose
    exact ⟨_, hr.of_le hn⟩

lemma breaks_operand {op : Binary} {d : Nat} {c : Cursor} {res : Result Tree}
    (h : Operand limit op d c res) (hk : c.current.kind = .binary op) :
    Breaks (fun w => ∀ m u l, Level m u l → Loose m c.current.kind →
      ∃ r, Level op.level (u ++ w) (.binary op l r))
      c res := by
  match res, h with
  | .ok .., _ => trivial
  | .error .., .left ha h =>
    have := Binary.level_of_left ha
    refine (breaks_reads h trivial).behind (.of_kind hk nofun) fun w hw m u l hl hloose => ?_
    have hm : op.level ≤ m := by
      rcases hloose op hk with h | h <;> omega
    obtain ⟨r, hr⟩ := hw (by omega)
    exact ⟨r, .left rfl ha (hl.of_le hm) hk hr⟩
  | .error .., .right ha he h =>
    have := Binary.level_of_right ha
    have hu := (Cursor.Passes.of_kind hk nofun).trans (enter_passes he)
    refine (breaks_reads h trivial).behind hu fun w hw m u l hl hloose => ?_
    have hm : op.level + 1 ≤ m := by
      rcases hloose op hk with h | h
      · exact h
      · simp [ha] at h
    obtain ⟨r, hr⟩ := hw (by omega)
    exact ⟨r, .right rfl ha (hl.of_le hm) hk hr⟩
  | .error .., .deep ha he => exact breaks_deep he

lemma breaks_arguments {d : Nat} {c : Cursor} {res : Result (List Tree)}
    (h : Arguments limit d c res) : Breaks (fun w => ∃ ts, Elements w ts) c res := by
  match res, h with
  | .ok .., _ => trivial
  | .error .., .first_refused hc h =>
    refine (breaks_reads h trivial).behind (.refl c) fun w hw => ?_
    obtain ⟨t, ht⟩ := hw (by decide)
    exact ⟨_, .one ht⟩
  | .error .., .later_refused hc h hs =>
    obtain ⟨v, hv, hl, -⟩ := sound_reads h trivial (by decide)
    refine (breaks_more hs).behind hv ?_
    rintro _ ⟨k, w, ts, rfl, hk, hts⟩
    exact ⟨_, .cons hl hk hts⟩

end

end

/-! ### All the tokens -/

section

variable {limit : Int} {c c' : Cursor} {f : ParseFault} {pos : Nat}

/-- A parse refusal of all the tokens is one of a rule, or lies at the token that the rules leave,
or at the end if there are none. -/
lemma refused_whole (h : whole limit c = .error ⟨.parse f, pos⟩ c') :
    Reads limit .sequence 0 c (.error ⟨.parse f, pos⟩ c') ∨
      f.unmatched = false ∧ pos = c'.current.pos ∧
        (c = c' ∧ c.current.kind = .stop ∨
          c'.current.kind ≠ .stop ∧ ∃ t, Reads limit .sequence 0 c (.ok t c')) := by
  rcases whole_cases limit c with ⟨hc, hw⟩ | ⟨r, c₁, hr, hw⟩ |
    ⟨t, c₁, hr, ⟨hc, g, hg, hw⟩ | ⟨-, hw⟩⟩
  · rw [hw] at h
    cases h
    exact .inr ⟨rfl, rfl, .inl ⟨rfl, hc⟩⟩
  · rw [hw] at h
    cases h
    exact .inl hr
  · rw [hw] at h
    cases h
    refine .inr ⟨?_, rfl, .inr ⟨hc, t, hr⟩⟩
    rcases hg with rfl | rfl | rfl <;> rfl
  · rw [hw] at h
    cases h

lemma breaks_whole (h : whole limit c = .error ⟨.parse f, pos⟩ c') :
    ∃ w, c.Passes w c' ∧ (∃ v, (∀ t ∈ v, Filler t) ∧ ∃ t, Sequence (w ++ v) t) ∧
      Blames w c' f pos := by
  rcases refused_whole h with hr | ⟨hf, rfl, ⟨rfl, -⟩ | ⟨-, t, hr⟩⟩
  · exact breaks_reads hr trivial f rfl
  · have hlevel := (Level.signed (.primary primary_operand)).of_le (n := 2) (by decide)
    exact ⟨[], .refl c, ⟨_, filler_operand, _, .one hlevel⟩, .current hf⟩
  · obtain ⟨w, hw, ht⟩ := sound_reads hr trivial
    exact ⟨w, hw, ⟨[], List.forall_mem_nil _, t, by rwa [List.append_nil]⟩, .current hf⟩

end

end Builder

namespace Tree

open Builder Grammar
open Token (unclosed)

variable {source : Option String} {limit : Int} {w u v : List Token} {c : Cursor} {f : ParseFault}
  {t : Tree} {pos : Nat}

/-- An expression that opens no more levels than the limit allows is built. -/
lemma build_of_openers (source : Option String) (h : Sequence (body w) t)
    (hlimit : (body w).countP (·.kind.opens) ≤ limit) : build source limit w = .ok t := by
  have hhigh := build_of_sequence source h (Int.le_max_right limit (body w).length)
  rcases build_follows (Int.le_max_left limit (body w).length) w with hsame | ⟨pos, c', hr, -⟩
  · rw [hsame, hhigh]
  · obtain ⟨o, ho, -⟩ := first_of_refused (Int.le_max_left limit (body w).length) hr
    have := ho.le_countP
    omega

lemma split_passes (hw : ∀ t ∈ w, t.kind ≠ .stop) (hu : (Cursor.ofTokens w).Passes u c) :
    w = u ++ c.rest := by
  have hbody : body w = u ++ c.rest := hu.rest
  rwa [body_of_forall hw] at hbody

/-- The current token is the one behind those that are passed. -/
lemma current_passes (hw : ∀ t ∈ w, t.kind ≠ .stop) (hu : (Cursor.ofTokens w).Passes u c) :
    c.current = w[u.length]?.getD ⟨.stop, "", (Cursor.ofTokens w).stop⟩ := by
  have hsplit := split_passes hw hu
  rw [hsplit, List.getElem?_append_right (Nat.le_refl _), Nat.sub_self, ← hsplit, ← hu.stop,
    Cursor.current]
  cases c.rest <;> rfl

/-- With other tokens `v` behind the current one the cursor starts in front of other tokens. -/
lemma swap_ofTokens {k : Token} {rest : List Token} (hw : ∀ t ∈ u ++ k :: rest, t.kind ≠ .stop)
    (v : List Token) :
    (Cursor.ofTokens (u ++ k :: rest)).swap rest.length (body v)
      (Cursor.ofTokens (u ++ k :: v)).stop = .ofTokens (u ++ k :: v) := by
  have hstart : ∀ ts, Cursor.ofTokens ts = ⟨[], body ts, (Cursor.ofTokens ts).stop, []⟩ :=
    fun _ => rfl
  have hassoc : ∀ ts, u ++ k :: ts = (u ++ [k]) ++ ts :=
    fun ts => by rw [List.append_assoc, List.singleton_append]
  rw [hstart (u ++ k :: v), hstart (u ++ k :: rest), body_of_forall hw, Cursor.swap]
  rw [hassoc] at hw ⊢
  rw [hassoc v, body_append fun t ht => hw t (List.mem_append_left rest ht), List.length_append,
    Nat.add_sub_cancel, List.take_left]

/-- Tokens that are refused at one of them are refused whatever follows it. -/
lemma refused_at (hw : ∀ t ∈ w, t.kind ≠ .stop)
    (h : whole limit (.ofTokens w) = .error ⟨.parse f, pos⟩ c) (hu : (Cursor.ofTokens w).Passes u c)
    (hlt : u.length < w.length) (v : List Token) (source : Option String) (limit' : Int)
    (t : Tree) : build source limit' (w.take (u.length + 1) ++ v) ≠ .ok t := by
  have hsplit := split_passes hw hu
  obtain ⟨k, rest, hrest⟩ : ∃ k rest, c.rest = k :: rest := by
    refine List.exists_cons_of_ne_nil fun hnil => ?_
    rw [hnil, List.append_nil] at hsplit
    rw [hsplit] at hlt
    exact Nat.lt_irrefl _ hlt
  rw [hrest] at hsplit
  subst hsplit
  have htake : (u ++ k :: rest).take (u.length + 1) ++ v = u ++ k :: v := by
    rw [List.take_length_add_append]
    simp
  rw [htake]
  obtain ⟨res, hr, rfl, hne⟩ : ∃ res, Reads limit .sequence 0 (.ofTokens (u ++ k :: rest)) res ∧
      cursor res = c ∧ ∀ r c', res = .error r c' → r.cause = .parse f := by
    rcases refused_whole h with hr | ⟨-, -, ⟨rfl, hstop⟩ | ⟨-, t, hr⟩⟩
    · exact ⟨_, hr, rfl, by rintro _ _ ⟨⟩; rfl⟩
    · rw [Cursor.current_cons hrest] at hstop
      exact absurd hstop (hw k (by simp))
    · exact ⟨_, hr, rfl, nofun⟩
  have hahead : rest.length < (cursor res).rest.length := by
    rw [hrest, List.length_cons]
    exact Nat.lt_succ_self _
  have hr' := swap_reads (z := body v) (s := (Cursor.ofTokens (u ++ k :: v)).stop) hr hahead
  rw [swap_ofTokens hw] at hr'
  intro hbuild
  obtain ⟨c', ht, hend⟩ := build_eq_ok.1 hbuild
  have ht' := reads_higher (Int.le_max_right limit limit') ht
  cases res with
  | error r c =>
    have hcause := hne r c rfl
    cases (hr'.higher (Int.le_max_left limit limit') (by rintro _ _ ⟨⟩; cases hcause)).unique ht'
  | ok t c =>
    -- The token that is not passed is still there.
    cases (reads_higher (Int.le_max_left limit limit') hr').unique ht'
    have hkept : c.rest.take (c.rest.length - rest.length) = [k] := by
      rw [show c.rest = k :: rest from hrest, List.length_cons, Nat.add_sub_cancel_left]
      rfl
    rw [Cursor.swap, hkept] at hend
    cases hend

lemma run_of_refused {e : Error} (h : build source limit w = .error e) :
    ∃ r c, run limit w = .error r c ∧ r.error source = e := by
  unfold build at h
  cases hrun : run limit w with
  | ok t c =>
    rw [hrun] at h
    cases h
  | error r c =>
    rw [hrun] at h
    exact ⟨r, c, rfl, Except.error.inj h⟩

/-- What is filled in opens no level, so that the limit of the tokens is enough. -/
lemma build_filled (source : Option String) (hu : ∀ t ∈ u, t.kind ≠ .stop) (hv : ∀ t ∈ v, Filler t)
    (h : Sequence (u ++ v) t) (hlimit : u.length ≤ limit) :
    build source limit (u ++ v) = .ok t := by
  have hstop : ∀ t ∈ u ++ v, t.kind ≠ .stop := by
    refine List.forall_mem_append.2 ⟨hu, fun t ht => ?_⟩
    rcases hv t ht with hk | hk <;> simp [hk]
  have hnone : v.countP (·.kind.opens) = 0 := by
    refine List.countP_eq_zero.2 fun t ht => ?_
    rcases hv t ht with hk | hk <;> simp [hk, Kind.opens]
  refine build_of_openers source (by rwa [body_of_forall hstop]) ?_
  have := List.countP_le_length (p := (·.kind.opens)) (l := u)
  rw [body_of_forall hstop, List.countP_append, hnone]
  omega

/-- **Refusals are the earliest possible.** Under a limit with room for all tokens, let tokens be
refused as no expression, while the current token is the one with the index `k`, or the end. The
tokens before it begin tokens that are built, under the same limit; together with the current token
they begin none that are built, under any limit. The error lies at the current token, or if it is
about an opening parenthesis without a closing one, which is noticed at the end only, at the
innermost one that is open. -/
theorem refused_earliest {site : Site} (hw : ∀ t ∈ w, t.kind ≠ .stop) (hlimit : w.length ≤ limit)
    (h : build source limit w = .error (.parse f site)) :
    ∃ c, run limit w = .error ⟨.parse f, site.pos⟩ c ∧ ∃ k ≤ w.length, c.passed.reverse = w.take k ∧
      c.current = w[k]?.getD ⟨.stop, "", (Cursor.ofTokens w).stop⟩ ∧
      (∃ v t, build source limit (w.take k ++ v) = .ok t) ∧
      (k < w.length → ∀ v source' limit' t, build source' limit' (w.take (k + 1) ++ v) ≠ .ok t) ∧
      (f.unmatched = false → site.pos = c.current.pos) ∧
      (f.unmatched → k = w.length ∧ ∃ o ks, unclosed w = o :: ks ∧ site.pos = o.pos) := by
  obtain ⟨r, c, hrun, he⟩ := run_of_refused h
  obtain ⟨cause, pos⟩ := r
  cases cause with
  | nesting | fault => cases he
  | parse g =>
    cases he
    obtain ⟨u, hu, ⟨v, hv, t, ht⟩, hblames⟩ := breaks_whole hrun
    have hsplit := split_passes hw hu
    have hlength : u.length ≤ w.length := by
      rw [hsplit, List.length_append]
      exact Nat.le_add_right ..
    have htake : w.take u.length = u := by
      rw [hsplit, List.take_left]
    have hpassed : c.passed.reverse = w.take u.length := by
      rw [hu.passed, List.reverse_append, List.reverse_reverse, htake]
      rfl
    refine ⟨c, hrun, u.length, hlength, hpassed, current_passes hw hu, ⟨v, t, ?_⟩,
      refused_at hw hrun hu, fun hf => ?_, fun hf => ?_⟩
    · rw [htake]
      exact build_filled source (fun t ht => hw t (hsplit ▸ List.mem_append_left _ ht)) hv ht
        (by omega)
    · cases hblames with
      | current => rfl
      | unclosed hf' => rw [hf] at hf'; cases hf'
    · cases hblames with
      | current hf' => rw [hf] at hf'; cases hf'
      | @unclosed u₁ o _ _ hstop hu' ho hclosed =>
        rw [(stop_iff hu).1 hstop, List.append_nil] at hsplit
        refine ⟨by rw [hsplit], o, unclosed u₁, ?_, rfl⟩
        rw [hsplit, hu', hclosed.unclosed ho]

/-- The tokens of `f(a,)` are refused at the closing parenthesis. -/
theorem refused_earliest_call :
    let w : List Token := [⟨.name, "f", 0⟩, ⟨.opening, "(", 1⟩, ⟨.name, "a", 2⟩, ⟨.comma, ",", 3⟩,
      ⟨.closing, ")", 4⟩]
    build none 5 w = .error (.parse (.missingAfter ",") ⟨none, 4⟩) ∧
      (∃ v t, build none 5 (w.take 4 ++ v) = .ok t) ∧
      ∀ v source limit t, build source limit (w ++ v) ≠ .ok t := by
  intro w
  have hw : ∀ t ∈ w, t.kind ≠ .stop := by simp [w]
  have he : build none 5 w = .error (.parse (.missingAfter ",") ⟨none, 4⟩) := by rfl
  obtain ⟨c, -, k, hk, -, hcurrent, hbegins, hends, hpos, -⟩ := refused_earliest hw (by decide) he
  have hall : ∀ k ≤ 5, (w[k]?.getD ⟨.stop, "", (Cursor.ofTokens w).stop⟩).pos = k := by decide
  obtain rfl : 4 = k := by rw [← hall k hk, ← hcurrent, ← hpos rfl]
  exact ⟨he, hbegins, hends (by decide)⟩

end Tree

end Reckon
