import Mathlib.Data.List.DropRight
import KeyStore.Text.Blank
import KeyStore.Text.Lines

/-!
# Pieces and lines

A text that is cut at a mark is its pieces with the mark between them (`splitAt_eq_splitOn`), and
cut once it is what stands before and after the first mark (`splitOnce_eq_some_iff`). The lines of a
text are read off it one by one (`lines_append`, `lines_of_notMem`). Trimming takes blanks off both
ends and nothing else.
-/

namespace KeyStore.Text

variable {mark : Char} {text before after line rest : List Char}

/-! ### Pieces -/

theorem splitAt_eq_splitOn (mark : Char) (text : List Char) :
    splitAt mark text = text.splitOn mark := by
  induction text with
  | nil => rfl
  | cons c text ih =>
    rw [splitAt, List.splitOn_cons_eq_if_modifyHead, ih]
    by_cases cut : c = mark
    · simp [cut]
    · simp only [cut, if_false, beq_iff_eq]
      cases pieces : text.splitOn mark with
      | nil => exact absurd pieces (List.splitOn_ne_nil _ _)
      | cons piece others => rfl

/-- The text starts with its first piece. -/
theorem splitOn_head_prefix {first : List Char} {others : List (List Char)}
    (pieces : text.splitOn mark = first :: others) : first <+: text := by
  have whole := @List.intercalate_splitOn _ text _ _ mark
  rw [pieces] at whole
  cases others with
  | nil => exact ⟨[], by simpa using whole⟩
  | cons next others =>
    rw [List.intercalate_cons_cons, List.append_assoc] at whole
    exact ⟨_, whole⟩

/-- A piece is part of the text, and the mark is not in it. -/
theorem infix_of_mem_splitAt {piece : List Char} (cut : piece ∈ splitAt mark text) :
    piece <:+: text ∧ mark ∉ piece := by
  rw [splitAt_eq_splitOn] at cut
  induction text generalizing piece with
  | nil =>
    rw [List.splitOn_nil, List.mem_singleton] at cut
    simp [cut]
  | cons c text ih =>
    have later {piece : List Char} (cut : piece ∈ text.splitOn mark) :
        piece <:+: c :: text ∧ mark ∉ piece := (ih cut).imp_left List.infix_cons
    obtain ⟨first, others, pieces⟩ := List.exists_cons_of_ne_nil (List.splitOn_ne_nil mark text)
    rw [List.splitOn_cons_eq_if_modifyHead] at cut
    split at cut
    · rcases List.mem_cons.1 cut with rfl | cut
      · simp
      · exact later cut
    · next other =>
      rw [pieces, List.modifyHead_cons] at cut
      rw [pieces] at later
      rcases List.mem_cons.1 cut with rfl | cut
      · have start : c :: first <+: c :: text :=
          List.cons_prefix_cons.2 ⟨rfl, splitOn_head_prefix pieces⟩
        refine ⟨start.isInfix, not_or.2 ⟨?_, ?_⟩ ∘ List.mem_cons.1⟩
        · exact fun same => other (by simp [same])
        · exact (later List.mem_cons_self).2
      · exact later (List.mem_cons_of_mem _ cut)

/-- Another character at the end belongs to the last piece. -/
theorem splitOn_concat {c : Char} (other : c ≠ mark) (text : List Char) :
    ∃ front last, text.splitOn mark = front ++ [last] ∧
      (text ++ [c]).splitOn mark = front ++ [last ++ [c]] := by
  induction text with
  | nil => exact ⟨[], [], rfl, List.splitOn_eq_singleton (by simpa using other.symm)⟩
  | cons d text ih =>
    obtain ⟨front, last, pieces, longer⟩ := ih
    rw [List.cons_append, List.splitOn_cons_eq_if_modifyHead, List.splitOn_cons_eq_if_modifyHead,
      pieces, longer]
    split
    · exact ⟨[] :: front, last, rfl, rfl⟩
    · cases front with
      | nil => exact ⟨[], d :: last, rfl, rfl⟩
      | cons first front => exact ⟨(d :: first) :: front, last, rfl, rfl⟩

/-- What is cut once is what stands before and after the first mark. -/
theorem splitOnce_eq_some_iff :
    splitOnce mark text = some (before, after) ↔
      text = before ++ mark :: after ∧ mark ∉ before := by
  induction text generalizing before with
  | nil => simp [splitOnce]
  | cons c text ih =>
    rw [splitOnce]
    by_cases cut : c = mark
    · cases before <;> grind
    · cases before with
      | nil => simp [cut]
      | cons d before =>
        rw [if_neg cut]
        simp only [Option.map_eq_some_iff, Prod.exists, Prod.mk.injEq, List.cons.injEq]
        grind

/-! ### Lines -/

theorem linesOfPieces_cons (piece : List Char) {pieces : List (List Char)} (more : pieces ≠ []) :
    linesOfPieces (piece :: pieces) = dropReturn piece :: linesOfPieces pieces := by
  cases pieces with
  | nil => exact absurd rfl more
  | cons next others => rfl

theorem lines_append (free : '\n' ∉ line) (rest : List Char) :
    lines (line ++ '\n' :: rest) = dropReturn line :: lines rest := by
  rw [lines, splitAt_eq_splitOn, List.splitOn_append_cons_self_of_not_mem free,
    linesOfPieces_cons _ (List.splitOn_ne_nil _ _), lines, splitAt_eq_splitOn]

theorem lines_of_notMem (free : '\n' ∉ line) (some : line ≠ []) : lines line = [line] := by
  rw [lines, splitAt_eq_splitOn, List.splitOn_eq_singleton free, linesOfPieces]
  simp [some]

/-- A text is empty, or a line, or a line with something after it. -/
theorem line_cases (text : List Char) :
    '\n' ∉ text ∨ ∃ line rest, text = line ++ '\n' :: rest ∧ '\n' ∉ line := by
  by_cases fed : '\n' ∈ text
  · exact .inr (List.eq_append_cons_of_mem fed)
  · exact .inl fed

/-- A line is part of the text, and no line feed is in it. -/
theorem infix_of_mem_lines (listed : line ∈ lines text) : line <:+: text ∧ '\n' ∉ line := by
  suffices drawn : ∀ pieces, line ∈ linesOfPieces pieces → ∃ piece ∈ pieces, line <+: piece by
    obtain ⟨piece, cut, start⟩ := drawn _ listed
    obtain ⟨inside, free⟩ := infix_of_mem_splitAt cut
    exact ⟨start.isInfix.trans inside, fun feed => free (start.subset feed)⟩
  intro pieces
  induction pieces with
  | nil => simp [linesOfPieces]
  | cons piece pieces ih =>
    intro listed
    cases pieces with
    | nil =>
      rw [linesOfPieces] at listed
      split at listed
      · cases listed
      · exact ⟨piece, List.mem_cons_self, List.mem_singleton.1 listed ▸ List.prefix_rfl⟩
    | cons next others =>
      rcases List.mem_cons.1 listed with rfl | listed
      · refine ⟨piece, List.mem_cons_self, ?_⟩
        rw [dropReturn]
        split
        · exact List.dropLast_prefix piece
        · exact List.prefix_rfl
      · obtain ⟨piece, cut, start⟩ := ih listed
        exact ⟨piece, List.mem_cons_of_mem _ cut, start⟩

/-! ### Trimming -/

theorem trimEnd_eq_rdropWhile (text : List Char) : trimEnd text = text.rdropWhile isBlank := rfl

theorem trim_cons_of_blank {c : Char} (blank : isBlank c = true) (text : List Char) :
    trim (c :: text) = trim text := by
  rw [trim, trimStart, List.dropWhile_cons_of_pos blank, trim, trimStart]

theorem trim_concat_of_blank {c : Char} (blank : isBlank c = true) (text : List Char) :
    trim (text ++ [c]) = trim text := by
  rw [trim, trimStart, List.dropWhile_append]
  split
  · next empty =>
    rw [List.isEmpty_iff] at empty
    simp [trim, trimStart, empty, blank, List.dropWhile]
  · rw [trimEnd_eq_rdropWhile, List.rdropWhile_concat_pos _ _ _ blank, ← trimEnd_eq_rdropWhile,
      trim, trimStart]

/-- A text whose ends are not blank is left as it is. -/
theorem trim_eq_self (first : ∀ c, text.head? = some c → isBlank c = false)
    (last : ∀ c, text.getLast? = some c → isBlank c = false) : trim text = text := by
  have start : trimStart text = text := by
    cases text with
    | nil => rfl
    | cons c text => exact List.dropWhile_cons_of_neg (by simp [first c rfl])
  rw [trim, start, trimEnd_eq_rdropWhile, List.rdropWhile_eq_self_iff]
  intro some
  rw [last _ (List.getLast?_eq_some_getLast some)]
  exact Bool.false_ne_true

theorem trim_isPart (text : List Char) : trim text <:+: text :=
  (List.rdropWhile_prefix _ _).isInfix.trans (List.dropWhile_suffix _).isInfix

theorem getLast?_trim {c : Char} (last : (trim text).getLast? = some c) : isBlank c = false := by
  rw [trim, trimEnd, List.getLast?_reverse] at last
  have black := List.head?_dropWhile_not isBlank (trimStart text).reverse
  rwa [last] at black

end KeyStore.Text
