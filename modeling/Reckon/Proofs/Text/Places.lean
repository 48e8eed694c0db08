import Mathlib.Algebra.GroupWithZero.Nat
import Mathlib.Data.List.DropRight
import Reckon.Place
import Reckon.Proofs.Text.Digits

/-!
Lines and columns. A text is its lines with a break between any two of them. An offset up to the end
of the text lies in one line, behind the lines before it with their breaks and behind so many
characters of its own; that is how a place counts line and column, and under the character at this
column of the snippet stands its caret.
-/

namespace Reckon

/-- The lines of a text, without the breaks between them. -/
def Text.lines (source : String) : List (List Char) :=
  source.toList.splitOn '\n'

/-- The length of lines with a break behind each. -/
def Text.extent (ls : List (List Char)) : Nat :=
  (ls.map fun text => text.length + 1).sum

open Text

/-- Line and column of an offset: before it are whole lines with their breaks, and as many
characters of its own line as are before the column. The column may be the one behind the line. -/
structure Coordinate (source : String) (pos line column : Nat) : Prop where
  line_pos : 1 ≤ line
  column_pos : 1 ≤ column
  within : ∃ text, (lines source)[line - 1]? = some text ∧ column ≤ text.length + 1
  offset : extent ((lines source).take (line - 1)) + (column - 1) = pos

/-- In the second of the two rows there is nothing but a caret. In the first one, at the same
place, there is the character of the source at the offset, or the row ends there and in the source
the line does. -/
structure Points (source : String) (pos : Nat) (top bottom : List Char) : Prop where
  rows : '\n' ∉ top ∧ '\n' ∉ bottom
  caret : ∃ n, bottom = List.replicate n ' ' ++ ['^'] ∧
    (n < top.length ∧ top[n]? = source.toList[pos]? ∨
      n = top.length ∧ (source.toList[pos]? = some '\n' ∨ pos = source.length))

/-! ### Lines -/

section

variable {cs u v : List Char}

lemma extent_append (ls ks : List (List Char)) : extent (ls ++ ks) = extent ls + extent ks := by
  rw [extent, List.map_append, List.sum_append, extent, extent]

lemma extent_singleton (text : List Char) : extent [text] = text.length + 1 :=
  rfl

lemma head_splitOn (v : List Char) : ∃ ls, v.splitOn '\n' = v.takeWhile (· ≠ '\n') :: ls := by
  cases v with
  | nil => exact ⟨[], List.splitOn_nil _⟩
  | cons c v =>
    obtain ⟨ls, hls⟩ := head_splitOn v
    rw [List.splitOn_cons_eq_if_modifyHead, hls]
    by_cases hc : c = '\n' <;> simp [hc]

/-- The lines of a text up to some character: whole lines, as many as there are breaks, and the
beginning of another line. -/
lemma splitOn_append (u v : List Char) : ∃ us,
    (u ++ v).splitOn '\n' = us ++ (v.splitOn '\n').modifyHead (u.rtakeWhile (· ≠ '\n') ++ ·) ∧
      us.length = u.count '\n' ∧
      extent us + (u.rtakeWhile (· ≠ '\n')).length = u.length := by
  induction u using List.reverseRecOn generalizing v with
  | nil =>
    obtain ⟨ls, hls⟩ := head_splitOn v
    exact ⟨[], by simp [hls], rfl, rfl⟩
  | append_singleton u c ih =>
    obtain ⟨us, hus, hcount, hsum⟩ := ih (c :: v)
    rw [List.append_assoc, List.singleton_append, hus, List.splitOn_cons_eq_if_modifyHead]
    by_cases hc : c = '\n'
    · subst hc
      obtain ⟨ls, hls⟩ := head_splitOn v
      have hnone : (u ++ ['\n']).rtakeWhile (· ≠ '\n') = [] :=
        List.rtakeWhile_concat_neg _ _ _ (by simp)
      refine ⟨us ++ [u.rtakeWhile (· ≠ '\n')], ?_, ?_, ?_⟩
      · simp [hls]
      · simp [hcount]
      · rw [hnone, extent_append, extent_singleton, List.length_append, List.length_singleton,
          ← hsum]
        rfl
    · have hmore : (u ++ [c]).rtakeWhile (· ≠ '\n') = u.rtakeWhile (· ≠ '\n') ++ [c] :=
        List.rtakeWhile_concat_pos _ _ _ (by simpa using hc)
      refine ⟨us, ?_, ?_, ?_⟩
      · simp [hc, List.modifyHead_modifyHead, Function.comp_def]
      · simp [hc, hcount]
      · rw [hmore, List.length_append, List.length_append, ← hsum, Nat.add_assoc]

end

/-! ### Places -/

namespace Place

variable {p : Place}

/-- The characters from the place on. -/
def after (p : Place) : List Char :=
  p.source.toList.drop p.pos

/-- The characters of the line before the place. -/
def left (p : Place) : List Char :=
  p.before.rtakeWhile (· ≠ '\n')

lemma before_append_after (p : Place) : p.before ++ p.after = p.source.toList :=
  List.take_append_drop ..

lemma length_before (h : p.pos ≤ p.source.length) : p.before.length = p.pos := by
  rw [before, List.length_take, String.length_toList, Nat.min_eq_left h]

lemma column_eq (h : p.pos ≤ p.source.length) : p.column = p.left.length + 1 := by
  have hle : p.left.length ≤ p.before.length := (List.rtakeWhile_suffix ..).length_le
  rw [length_before h] at hle
  have hstart : p.start = p.pos - p.left.length := by
    rw [start, length_before h, left, List.rtakeWhile, List.length_reverse]
  rw [column, hstart]
  omega

/-- The lines of the source around the place. -/
lemma lines_spec (h : p.pos ≤ p.source.length) : ∃ us ls,
    lines p.source = us ++ (p.left ++ p.after.takeWhile (· ≠ '\n')) :: ls ∧ us.length = p.line - 1 ∧
      extent us + p.left.length = p.pos := by
  obtain ⟨us, hus, hcount, hsum⟩ := splitOn_append p.before p.after
  obtain ⟨ls, hls⟩ := head_splitOn p.after
  rw [before_append_after, hls] at hus
  rw [length_before h] at hsum
  exact ⟨us, ls, hus, hcount, hsum⟩

lemma lineText_eq (h : p.pos ≤ p.source.length) :
    (lines p.source)[p.line - 1]? = some p.lineText ∧
      p.lineText = p.left ++ p.after.takeWhile (· ≠ '\n') := by
  obtain ⟨us, ls, hlines, hlength, -⟩ := lines_spec h
  have hget : (lines p.source)[p.line - 1]? = some (p.left ++ p.after.takeWhile (· ≠ '\n')) := by
    rw [hlines, ← hlength, List.getElem?_append_right (Nat.le_refl _), Nat.sub_self,
      List.getElem?_cons_zero]
  have htext : p.lineText = p.left ++ p.after.takeWhile (· ≠ '\n') := by
    rw [lineText, List.getD_eq_getElem?_getD]
    change ((lines p.source)[p.line - 1]?).getD [] = _
    rw [hget]
    rfl
  exact ⟨htext ▸ hget, htext⟩

theorem coordinate (h : p.pos ≤ p.source.length) : Coordinate p.source p.pos p.line p.column := by
  obtain ⟨us, ls, hlines, hlength, hsum⟩ := lines_spec h
  obtain ⟨hget, htext⟩ := lineText_eq h
  refine ⟨Nat.le_add_left .., Nat.le_add_left .., ⟨p.lineText, hget, ?_⟩, ?_⟩
  · rw [column_eq h, htext, List.length_append]
    omega
  · rw [hlines, ← hlength, List.take_left, column_eq h]
    exact hsum

/-! ### The snippet -/

lemma margin_line (p : Place) : '\n' ∉ p.margin := by
  have hdigit : '\n' ∉ Nat.toDigits 10 p.line :=
    fun h => absurd (digits_toDigits p.line _ h) (by decide)
  simp [margin, hdigit]

lemma points (h : p.pos ≤ p.source.length) : Points p.source p.pos p.top p.bottom := by
  obtain ⟨-, htext⟩ := lineText_eq h
  have hline : '\n' ∉ p.lineText := by
    rw [htext, List.mem_append]
    rintro (hmem | hmem)
    · simpa using List.mem_rtakeWhile_imp hmem
    · simpa using List.mem_takeWhile_imp hmem
  have hrows : '\n' ∉ p.top ∧ '\n' ∉ p.bottom := by
    constructor
    · simp [top, margin_line, hline]
    · simp [bottom]
  have hcolumn : p.margin.length + p.column - 1 = (p.margin ++ p.left).length := by
    rw [column_eq h, List.length_append]
    omega
  have htop : p.top = (p.margin ++ p.left) ++ p.after.takeWhile (· ≠ '\n') := by
    rw [top, htext, List.append_assoc]
  have hsource : p.source.toList[p.pos]? = p.after.head? := by
    rw [after, List.head?_drop]
  refine ⟨hrows, _, rfl, ?_⟩
  rw [hcolumn, htop, hsource, List.getElem?_append_right (Nat.le_refl _), Nat.sub_self,
    List.length_append]
  cases hafter : p.after with
  | nil =>
    have hend : p.source.toList.length ≤ p.pos := List.drop_eq_nil_iff.1 hafter
    rw [String.length_toList] at hend
    exact .inr ⟨by simp, .inr (Nat.le_antisymm h hend)⟩
  | cons c cs =>
    by_cases hc : c = '\n'
    · exact .inr ⟨by simp [hc], .inl (by simp [hc])⟩
    · exact .inl ⟨by simp [hc], by simp [hc]⟩

end Place

namespace Coordinate

variable {source : String} {pos line column line' column' : Nat}

/-- A line further down begins behind the other one and its break. -/
lemma line_le (h : Coordinate source pos line column) (h' : Coordinate source pos line' column') :
    line' ≤ line := by
  by_contra hlt
  obtain ⟨hline, -, ⟨text, htext, hcolumn⟩, hoff⟩ := h
  obtain ⟨k, hk⟩ : ∃ k, line' - 1 = line - 1 + 1 + k := ⟨line' - 1 - line, by omega⟩
  have hoff' := h'.offset
  rw [hk, List.take_add, List.take_add_one, htext, extent_append, extent_append, Option.toList_some,
    extent_singleton] at hoff'
  omega

/-- An offset has one line and one column at most. -/
theorem unique (h : Coordinate source pos line column) (h' : Coordinate source pos line' column') :
    line' = line ∧ column' = column := by
  obtain rfl : line' = line := Nat.le_antisymm (h.line_le h') (h'.line_le h)
  have := h.offset.trans h'.offset.symm
  have := h.column_pos
  have := h'.column_pos
  exact ⟨rfl, by omega⟩

end Coordinate

end Reckon
