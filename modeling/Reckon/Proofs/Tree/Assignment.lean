import Reckon.Proofs.Tree.Moved
import Reckon.Proofs.Tree.Sources

/-!
Assignments and their right sides. The source of an assignment is a name, an equality sign and a
text, with blanks around the name; it is read as the name and the tree of that text, and it is
refused as the text is, at an offset that is moved behind the sign. Only a blank text is refused at
the sign itself. Every other source is refused for its tokens or as no assignment.
-/

namespace Reckon

open Token

def Blank (s : String) : Prop :=
  ∀ c ∈ s.toList, gap c

/-- The text is that of an assignment of `r` to `n`. -/
structure Assigns (w₁ n w₂ r s : String) : Prop where
  before : Blank w₁
  name : IsName n
  between : Blank w₂
  head : r.toList.head? ≠ some '='
  text : s = w₁ ++ n ++ w₂ ++ "=" ++ r

/-- The second error is the first one `k` characters further on, in another source; only that an
integer has too many digits has no place. -/
structure Error.Further (source : String) (k : Nat) (e e' : Error) : Prop where
  label : e'.label = e.label
  message : e'.message = e.message
  pos : (∃ pos, e.pos? = some pos ∧ e'.pos? = some (pos + k) ∧ e'.place? = some ⟨source, pos + k⟩) ∨
    ∃ count, e = .fault (.digits count) ∧ e' = e

lemma further_refusal {source source' : String} {k : Nat} {r : Refusal}
    (h : (r.error (some source)).OfReading source) :
    (r.error (some source)).Further source' k ((r.moved k).error (some source')) := by
  obtain ⟨cause, pos⟩ := r
  cases cause with
  | parse f => exact ⟨rfl, rfl, .inl ⟨pos, rfl, rfl, rfl⟩⟩
  | nesting limit => exact ⟨rfl, rfl, .inl ⟨pos, rfl, rfl, rfl⟩⟩
  | fault f =>
    rcases h with h | ⟨_, -, t, -, -, -, he⟩
    · exact h.elim
    · exact ⟨rfl, rfl, .inr ⟨_, he, rfl⟩⟩

/-! ### Reading an assignment -/

section

variable {w₁ n w₂ r s : String} {limit : Int}

lemma Assigns.toList (h : Assigns w₁ n w₂ r s) :
    s.toList = w₁.toList ++ (n.toList ++ (w₂.toList ++ '=' :: r.toList)) := by
  rw [h.text]
  simp

/-- The tokens of an assignment are its name, its sign and those of its right side further on. -/
lemma Assigns.scan (h : Assigns w₁ n w₂ r s) :
    read false 0 s.toList =
      match read false 0 r.toList with
      | .ok ts => .ok (⟨.name, n, w₁.length⟩ :: ⟨.assign, "=", (w₁ ++ n ++ w₂).length⟩ ::
          ts.map (moved ((w₁ ++ n ++ w₂).length + 1)))
      | .error (f, q) => .error (f, q + ((w₁ ++ n ++ w₂).length + 1)) := by
  have hend : ∀ d, (w₂.toList ++ '=' :: r.toList).head? = some d → wordChar d = false := by
    intro d hd
    rcases hw : w₂.toList with _ | ⟨c, cs⟩
    · rw [hw] at hd
      cases hd
      rfl
    · have hc : gap c := h.between c (hw ▸ List.mem_cons_self)
      rw [hw] at hd
      cases hd
      simp only [gap, Bool.or_eq_true, decide_eq_true_eq] at hc
      rcases hc with ((rfl | rfl) | rfl) | rfl <;> rfl
  have hlength : (w₁ ++ n ++ w₂).length = 0 + w₁.toList.length + n.toList.length +
      w₂.toList.length := by
    simp [← String.length_toList, Nat.add_assoc]
  have hmoved := read_moved ((w₁ ++ n ++ w₂).length + 1) false 0 r.toList
  rw [Nat.zero_add] at hmoved
  rw [h.toList, read_gaps h.before, read_name h.name hend, read_gaps h.between, read_assign h.head,
    ← hlength, hmoved]
  cases Token.read false 0 r.toList <;> simp [Except.map, String.length_toList]

lemma read_blank (h : Blank r) : read false 0 r.toList = .ok [⟨.stop, "", r.toList.length⟩] := by
  have hread : Token.read false 0 (r.toList ++ []) = _ := read_gaps h
  rw [List.append_nil, Nat.zero_add, Token.read] at hread
  exact hread

lemma ofSource_of_read {ts : List Token} (h : read false 0 r.toList = .ok ts) :
    Tree.ofSource limit r = Tree.build (some r) limit ts :=
  Tree.ofSource_of_scan (by rw [Token.scan, h])

namespace Assigns

variable (h : Assigns w₁ n w₂ r s)

include h

/-- Without a right side the sign is at fault. -/
lemma of_blank (hr : Blank r) :
    Tree.ofAssignment limit s = .error (.parse .noValue ⟨some s, (w₁ ++ n ++ w₂).length⟩) := by
  rw [Tree.ofAssignment, Token.scan, h.scan, read_blank hr]
  rfl

lemma of_read {ts : List Token} (hr : ¬ Blank r) (hts : read false 0 r.toList = .ok ts) :
    Tree.ofAssignment limit s =
      (Tree.build (some s) limit (ts.map (moved ((w₁ ++ n ++ w₂).length + 1)))).map fun t =>
      (n, t) := by
  obtain ⟨t, ts, rfl⟩ : ∃ t us, ts = t :: us := by
    obtain ⟨w, pos, rfl, -⟩ := ended_read hts
    cases w <;> exact ⟨_, _, rfl⟩
  have hk : t.kind ≠ .stop := fun hk => hr (gaps_of_stop hts hk)
  have hassigned : ∀ pos pos' k, Tree.assigned s
      (⟨.name, n, pos⟩ :: ⟨.assign, "=", pos'⟩ :: (t :: ts).map (moved k)) =
      .ok (n, (t :: ts).map (moved k)) := by
    intro pos pos' k
    simp [Tree.assigned, hk]
  rw [Tree.ofAssignment, Token.scan, h.scan, hts]
  simp only
  change (Tree.assigned s _ >>= _) = _
  rw [hassigned]
  generalize (t :: ts).map (moved ((w₁ ++ n ++ w₂).length + 1)) = us
  change (Tree.build (some s) limit us >>= _) = _
  cases Tree.build (some s) limit us <;> rfl

/-- The right side is read as it is by itself, and refused as it is. -/
lemma reads (hr : ¬ Blank r) :
    (∀ t, Tree.ofSource limit r = .ok t → Tree.ofAssignment limit s = .ok (n, t)) ∧
    ∀ e, Tree.ofSource limit r = .error e →
      ∃ e', Tree.ofAssignment limit s = .error e' ∧
      e.Further s ((w₁ ++ n ++ w₂).length + 1) e' := by
  cases hts : read false 0 r.toList with
  | error e =>
    obtain ⟨f, q⟩ := e
    have hsource : Tree.ofSource limit r = .error (.token f ⟨r, q⟩) := by
      rw [Tree.ofSource, Token.scan, hts]
      rfl
    have hassign : Tree.ofAssignment limit s =
        .error (.token f ⟨s, q + ((w₁ ++ n ++ w₂).length + 1)⟩) := by
      rw [Tree.ofAssignment, Token.scan, h.scan, hts]
      rfl
    rw [hsource, hassign]
    constructor
    · rintro _ ⟨⟩
    · rintro _ ⟨⟩
      exact ⟨_, rfl, rfl, rfl, .inl ⟨q, rfl, rfl, rfl⟩⟩
  | ok ts =>
    have hsourced := Tree.sourced_ofSource limit r
    rw [ofSource_of_read hts] at hsourced ⊢
    rw [h.of_read hr hts]
    rcases Tree.build_moved (some r) (some s) limit (ended_read hts).stop with ⟨t, ht, ht'⟩ |
      ⟨e, he, he'⟩
    · rw [ht, ht']
      exact ⟨fun u hu => by cases hu; rfl, fun e he => by cases he⟩
    · rw [he] at hsourced
      rw [he, he']
      constructor
      · rintro _ ⟨⟩
      · rintro _ ⟨⟩
        exact ⟨_, rfl, further_refusal hsourced⟩

end Assigns

/-! ### Other sources -/

/-- What is taken for an assignment has the form of one. -/
lemma assigns_of_scan {t u : Token} {ts : List Token} (h : Token.scan s = .ok (t :: u :: ts))
    (ht : t.kind = .name) (hu : u.kind = .assign) : ∃ w₁ n w₂ r, Assigns w₁ n w₂ r s := by
  have hscanned := scanned_read (read_of_scan h)
  obtain ⟨w₁, c, rest, l, hs, hw₁, hl, rfl, hbehind⟩ := hscanned.front (by rw [ht]; decide)
  obtain ⟨w₂, c', r, l', hrest, hw₂, hl', rfl, -⟩ := hbehind.front (by rw [hu]; decide)
  have hname : IsName l.text := by
    have hsound := sound_lexeme hl
    rw [show l.kind = .name from ht] at hsound
    exact hsound
  obtain ⟨rfl, -, hhead⟩ := lexeme_assign hl' hu
  refine ⟨String.ofList w₁, l.text, String.ofList w₂, String.ofList r, ?_, hname, ?_, ?_, ?_⟩
  · simpa [Blank] using hw₁
  · simpa [Blank] using hw₂
  · simpa using hhead
  · rw [lexeme_name hl ht, hrest] at hs
    rw [← String.toList_inj, hs]
    simp

lemma refused_of_not_assigns (h : ¬ ∃ w₁ n w₂ r, Assigns w₁ n w₂ r s) :
    ∃ e, Tree.ofAssignment limit s = .error e ∧
      (e.label = "ExpressionTokenError" ∨ e.label = "ExpressionParseError") := by
  cases hts : Token.scan s with
  | error e =>
    obtain ⟨f, place, rfl⟩ := scan_error hts
    refine ⟨.token f place, ?_, .inl rfl⟩
    rw [Tree.ofAssignment, hts]
    rfl
  | ok ts =>
    rcases Tree.assigned_cases s ts with ⟨f, site, he⟩ | ⟨t, u, value, rfl, ht, hu, -⟩
    · refine ⟨.parse f site, ?_, .inr rfl⟩
      rw [Tree.ofAssignment, hts]
      change (Tree.assigned s ts >>= _) = _
      rw [he]
      rfl
    · exact absurd (assigns_of_scan hts ht hu) h

end

/-- **An assignment reads its right side.** Of the source of an assignment of `r` to `n` the tree is
that of `r`, under every limit, and an error is that of `r` with its class and its message, moved
behind the equality sign; only if `r` is blank, the error is that the value is missing, at the sign.
Every source of another form is refused for its tokens or as it is parsed. -/
theorem Tree.assignment_reads (limit : Int) :
    (∀ w₁ n w₂ r s, Assigns w₁ n w₂ r s →
      let p := (w₁ ++ n ++ w₂).length
      (∀ t, ofSource limit r = .ok t → ofAssignment limit s = .ok (n, t)) ∧
      (∀ e, ofSource limit r = .error e → ¬ Blank r →
        ∃ e', ofAssignment limit s = .error e' ∧ e.Further s (p + 1) e') ∧
      (Blank r → ofAssignment limit s = .error (.parse .noValue ⟨some s, p⟩))) ∧
    ∀ s, (¬ ∃ w₁ n w₂ r, Assigns w₁ n w₂ r s) →
      ∃ e, ofAssignment limit s = .error e ∧
        (e.label = "ExpressionTokenError" ∨ e.label = "ExpressionParseError") := by
  refine ⟨fun w₁ n w₂ r s h => ⟨fun t ht => ?_, fun e he hr => (h.reads hr).2 e he, h.of_blank⟩,
    fun s h => refused_of_not_assigns h⟩
  by_cases hr : Blank r
  · have hread : ofSource limit r = _ := ofSource_of_read (read_blank hr)
    rw [ht] at hread
    cases hread
  · exact (h.reads hr).1 t ht

/-- The assignment ` x =1 + 2`, and one whose right side ends too early. -/
theorem Tree.assignment_reads_sum :
    Assigns " " "x" " " "1 + 2" " x =1 + 2" ∧ Assigns "" "x" "" " 1 +" "x= 1 +" ∧
      (∃ t, ofSource 0 "1 + 2" = .ok t ∧ ofAssignment 0 " x =1 + 2" = .ok ("x", t)) ∧
      ∃ e e', ofSource 0 " 1 +" = .error e ∧ ofAssignment 0 "x= 1 +" = .error e' ∧
      e.Further "x= 1 +" 2 e' := by
  have hname : Token.IsName "x" := ⟨⟨'x', [], rfl, .inl rfl, nofun⟩, by decide, by decide⟩
  have hsum : Assigns " " "x" " " "1 + 2" " x =1 + 2" :=
    ⟨by simp [Blank, Token.gap], hname, by simp [Blank, Token.gap], by simp, rfl⟩
  have hcut : Assigns "" "x" "" " 1 +" "x= 1 +" :=
    ⟨by simp [Blank], hname, by simp [Blank], by simp, rfl⟩
  have hscan : Token.scan "1 + 2" = .ok [⟨.int, "1", 0⟩, ⟨.binary (.arith .add), "+", 2⟩,
      ⟨.int, "2", 4⟩, ⟨.stop, "", 5⟩] := by
    rw [Token.scan_eq]
    decide +kernel
  have hscan' : Token.scan " 1 +" = .ok [⟨.int, "1", 1⟩, ⟨.binary (.arith .add), "+", 3⟩,
      ⟨.stop, "", 4⟩] := by
    rw [Token.scan_eq]
    decide +kernel
  obtain ⟨t, ht⟩ : ∃ t, ofSource 0 "1 + 2" = .ok t := ⟨_, ofSource_of_scan hscan⟩
  obtain ⟨e, he⟩ : ∃ e, ofSource 0 " 1 +" = .error e := ⟨_, ofSource_of_scan hscan'⟩
  obtain ⟨e', he', hfurther⟩ :=
    ((assignment_reads 0).1 _ _ _ _ _ hcut).2.1 e he (by simp [Blank, Token.gap])
  exact ⟨hsum, hcut, ⟨t, ht, ((assignment_reads 0).1 _ _ _ _ _ hsum).1 t ht⟩, e, e', he, he',
    hfurther⟩

end Reckon
