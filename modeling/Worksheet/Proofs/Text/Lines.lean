import Worksheet.Proofs.Text.Trim

/-! # Lines

    A line feed ends a line, and a carriage return in front of it belongs to the
    end.  The last line need not be ended, and behind the last line feed there is
    no line unless something stands there.  So a text that is empty or ends with
    a line feed is made of whole lines, and what is put behind it has lines of its
    own. -/

namespace Worksheet.Text

variable {cs front : List Char}

/-- A line that a line feed ends, without the carriage return in front of the
    line feed. -/
def withoutReturn (line : List Char) : List Char :=
  if line.getLast? = some '\r' then line.dropLast else line

/-- The lines, given the parts between the line feeds.  The last part is not
    ended by a line feed. -/
def linesOfParts : List (List Char) → List (List Char)
  | [] => []
  | [last] => if last = [] then [] else [last]
  | part :: next :: parts => withoutReturn part :: linesOfParts (next :: parts)

/-- The lines of a text. -/
def lines (cs : List Char) : List (List Char) :=
  linesOfParts (split '\n' cs)

/-- The text is made of whole lines: it is empty, or a line feed ends it. -/
def IsWhole (cs : List Char) : Prop :=
  cs = [] ∨ cs.getLast? = some '\n'

theorem split_ne_nil (separator : Char) (cs : List Char) : split separator cs ≠ [] := by
  rw [split]
  split <;> exact List.cons_ne_nil _ _

theorem lines_nil : lines [] = [] := by
  rw [lines, split_nil]
  rfl

/-- A line feed ends the first line. -/
theorem lines_append_newline {line : List Char} (h : '\n' ∉ line) (rest : List Char) :
    lines (line ++ '\n' :: rest) = withoutReturn line :: lines rest := by
  obtain ⟨next, parts, hparts⟩ := List.exists_cons_of_ne_nil (split_ne_nil '\n' rest)
  rw [lines, split_append h, lines, hparts, linesOfParts]

/-- What follows the first line of a text of whole lines is made of whole lines
    again. -/
theorem IsWhole.rest {line rest : List Char} (h : IsWhole (line ++ '\n' :: rest)) :
    IsWhole rest := by
  rcases h with hnil | hlast
  · simp at hnil
  · cases rest with
    | nil => exact .inl rfl
    | cons c rest =>
      rw [List.getLast?_append, List.getLast?_cons_cons,
        List.getLast?_eq_some_getLast (List.cons_ne_nil c rest), Option.some_or] at hlast
      exact .inr ((List.getLast?_eq_some_getLast _).trans hlast)

/-- **Lines behind whole lines**: a text of whole lines and what follows it have
    their lines one after the other. -/
theorem lines_append (h : IsWhole front) (back : List Char) :
    lines (front ++ back) = lines front ++ lines back := by
  induction front using @parts_induction '\n' with
  | last line hline =>
    -- Without a line feed there is no whole line.
    rcases h with rfl | hlast
    · rw [List.nil_append, lines_nil, List.nil_append]
    · exact absurd (List.mem_of_getLast? hlast) hline
  | more line rest hline ih =>
    rw [List.append_assoc, List.cons_append, lines_append_newline hline,
      lines_append_newline hline, ih h.rest, List.cons_append]

/-- Whole lines are parts of their own, with nothing behind the last line feed. -/
theorem IsWhole.exists_parts (h : IsWhole front) :
    ∃ parts, parts.length = front.count '\n' ∧
      ∀ back, split '\n' (front ++ back) = parts ++ split '\n' back := by
  rcases h with rfl | hlast
  · exact ⟨[], rfl, fun back => rfl⟩
  · obtain ⟨ended, rfl⟩ := List.getLast?_eq_some_iff.mp hlast
    refine ⟨split '\n' ended, ?_, fun back => ?_⟩
    · rw [length_split, List.count_append, List.count_singleton_self]
    · rw [List.append_assoc, List.singleton_append, split_append_cons]

/-- A text is made of whole lines and a last one that is not ended. -/
theorem exists_isWhole_append (cs : List Char) :
    ∃ front last, cs = front ++ last ∧ IsWhole front ∧ '\n' ∉ last := by
  induction cs using List.reverseRecOn with
  | nil => exact ⟨[], [], rfl, .inl rfl, List.not_mem_nil⟩
  | append_singleton cs c ih =>
    by_cases hc : c = '\n'
    · subst hc
      exact ⟨cs ++ ['\n'], [], by simp, .inr (by simp), List.not_mem_nil⟩
    · obtain ⟨front, last, rfl, hfront, hlast⟩ := ih
      refine ⟨front, last ++ [c], by simp, hfront, ?_⟩
      simp [hlast, Ne.symm hc]

theorem trim_withoutReturn (line : List Char) : trim (withoutReturn line) = trim line := by
  unfold withoutReturn
  split
  · next hlast =>
    obtain ⟨line, rfl⟩ := List.getLast?_eq_some_iff.mp hlast
    rw [List.dropLast_concat, trim_concat_of_isBlank (by decide)]
  · rfl

/-- A line is a part, perhaps without the carriage return at its end. -/
theorem exists_part_of_mem_linesOfParts {parts : List (List Char)} {line : List Char}
    (h : line ∈ linesOfParts parts) : ∃ part ∈ parts, line.Sublist part := by
  induction parts with
  | nil => exact nomatch h
  | cons part parts ih =>
    cases parts with
    | nil =>
      rw [linesOfParts] at h
      split at h
      · exact nomatch h
      · exact ⟨part, List.mem_cons_self, by rw [List.mem_singleton.mp h]⟩
    | cons next parts =>
      rw [linesOfParts] at h
      rcases List.mem_cons.mp h with rfl | hrest
      · refine ⟨part, List.mem_cons_self, ?_⟩
        unfold withoutReturn
        split
        · exact List.dropLast_sublist part
        · exact List.Sublist.refl part
      · obtain ⟨other, hother, hline⟩ := ih hrest
        exact ⟨other, List.mem_cons_of_mem _ hother, hline⟩

/-- There is no line feed in a line. -/
theorem newline_notMem_of_mem_lines {line : List Char} (h : line ∈ lines cs) : '\n' ∉ line := by
  obtain ⟨part, hpart, hline⟩ := exists_part_of_mem_linesOfParts h
  exact fun hnewline => notMem_of_mem_split hpart (hline.subset hnewline)

end Worksheet.Text
