import Mathlib.Algebra.Group.Nat.Even
import Mathlib.Data.List.DropRight
import Worksheet.Proofs.SavedSheet.RoundTrip

/-! # Texts between quotes

    A saved text stands between two quotes, and the quotes in it are escaped.
    Whether a quote is escaped shows in the run of backslashes right in front of
    it: the run stands for pairs, and if its length is odd the last backslash
    belongs to the quote.

      • A quote in an escaped text comes from a quote of the text, so in front of
        it there is the escaped beginning of the text and one backslash more.
      • An escaped text ends in an even run, so a quote behind it is not escaped.

    With this the text is one value on one line, whatever is in it. -/

namespace Worksheet.SavedSheet

/-- How many backslashes `cs` ends in. -/
def finalBackslashes (cs : List Char) : Nat :=
  (cs.rtakeWhile (· = '\\')).length

/-! ### Runs of backslashes -/

theorem finalBackslashes_concat_backslash (cs : List Char) :
    finalBackslashes (cs ++ ['\\']) = finalBackslashes cs + 1 := by
  simp [finalBackslashes]

theorem finalBackslashes_concat_of_ne {c : Char} (h : c ≠ '\\') (cs : List Char) :
    finalBackslashes (cs ++ [c]) = 0 := by
  simp [finalBackslashes, h]

theorem escape_append (cs ds : List Char) : escape (cs ++ ds) = escape cs ++ escape ds :=
  List.flatMap_append

/-- A backslash is escaped by another one, and nothing else that is escaped ends in
    a backslash. -/
theorem escapeChar_cases (c : Char) :
    escapeChar c = ['\\', '\\'] ∨ ∃ front last, escapeChar c = front ++ [last] ∧ last ≠ '\\' := by
  unfold escapeChar
  split
  · exact .inl rfl
  · next hbackslash =>
    refine .inr ?_
    split
    · exact ⟨['\\'], '"', rfl, by decide⟩
    · split
      · exact ⟨['\\'], 'n', rfl, by decide⟩
      · exact ⟨[], c, rfl, hbackslash⟩

/-- An escaped text ends in an even number of backslashes. -/
theorem even_finalBackslashes_escape (cs : List Char) : Even (finalBackslashes (escape cs)) := by
  induction cs using List.reverseRecOn with
  | nil => exact .zero
  | append_singleton cs c ih =>
    have hescape : escape (cs ++ [c]) = escape cs ++ escapeChar c := by
      rw [escape_append, escape, escape, List.flatMap_singleton]
    rw [hescape]
    rcases escapeChar_cases c with hpair | ⟨front, last, hlast, hne⟩
    · -- Two more backslashes leave the number even.
      have htwo : escape cs ++ ['\\', '\\'] = (escape cs ++ ['\\']) ++ ['\\'] := by simp
      rw [hpair, htwo, finalBackslashes_concat_backslash, finalBackslashes_concat_backslash]
      exact ih.add (by decide : Even 2)
    · rw [hlast, ← List.append_assoc, finalBackslashes_concat_of_ne hne]
      exact .zero

/-! ### Quotes in an escaped text -/

/-- Only what a quote is escaped as has a quote in it, behind one backslash. -/
theorem eq_quote_of_escapeChar {c : Char} {before after : List Char}
    (h : escapeChar c = before ++ '"' :: after) : c = '"' ∧ before = ['\\'] ∧ after = [] := by
  by_cases hquote : c = '"'
  · subst hquote
    have hpair : ['\\', '"'] = before ++ '"' :: after := h
    exact ⟨rfl, by simpa [List.cons_eq_append_iff] using hpair⟩
  · have hmem : '"' ∈ escapeChar c := by simp [h]
    unfold escapeChar at hmem
    rw [if_neg hquote] at hmem
    split at hmem
    · exact absurd hmem (by decide)
    · split at hmem
      · exact absurd hmem (by decide)
      · exact absurd (List.mem_singleton.mp hmem).symm hquote

/-- A quote in an escaped text comes from a quote of the text.  In front of it
    there is what is escaped before, and a backslash. -/
theorem exists_of_escape_eq_append_quote {cs before after : List Char}
    (h : escape cs = before ++ '"' :: after) :
    ∃ front back, cs = front ++ '"' :: back ∧ before = escape front ++ ['\\'] ∧
      after = escape back := by
  induction cs generalizing before with
  | nil => exact absurd h (by simp [escape])
  | cons c cs ih =>
    have hcons : escapeChar c ++ escape cs = before ++ '"' :: after := h
    rcases List.append_eq_append_iff.mp hcons with ⟨later, rfl, hlater⟩ | ⟨here, hhere, hrest⟩
    · obtain ⟨front, back, rfl, rfl, rfl⟩ := ih hlater
      refine ⟨c :: front, back, rfl, ?_, rfl⟩
      rw [← List.append_assoc]
      rfl
    · -- The quote stands in what `c` is escaped as, or right behind that.
      cases here with
      | nil =>
        have hquote : escape cs = [] ++ '"' :: after := hrest.symm
        obtain ⟨front, back, -, hfront, -⟩ := ih hquote
        exact absurd hfront (by simp)
      | cons d here =>
        obtain ⟨rfl, rfl⟩ := List.cons.inj hrest
        obtain ⟨rfl, rfl, rfl⟩ := eq_quote_of_escapeChar hhere
        exact ⟨[], cs, rfl, rfl, rfl⟩

/-- A quote in an escaped text stands behind an odd number of backslashes. -/
theorem odd_finalBackslashes_of_quote {cs before after : List Char}
    (h : escape cs = before ++ '"' :: after) : Odd (finalBackslashes before) := by
  obtain ⟨front, back, -, rfl, -⟩ := exists_of_escape_eq_append_quote h
  rw [finalBackslashes_concat_backslash]
  exact (even_finalBackslashes_escape front).add_one

/-! ### The value of a text -/

/-- **Texts are kept on one line**: a text that is escaped has no line feed and is
    read back as the text it was.  Its quotes stand behind an odd number of
    backslashes and its end behind an even number, so that the quote which the
    writer puts behind it is read as a quote of its own, with nothing lost before
    it.  What the writer writes for the text is read as the text, also if that
    looks like a number, is empty or has blanks at its ends. -/
theorem readValue_writeValue_text (value : String) :
    unescape (escape value.toList) = value.toList ∧
    '\n' ∉ escape value.toList ∧
    (∀ before after, escape value.toList = before ++ '"' :: after →
      Odd (finalBackslashes before)) ∧
    Even (finalBackslashes (escape value.toList)) ∧
    (∀ rest, unescape (escape value.toList ++ '"' :: rest) =
      value.toList ++ '"' :: unescape rest) ∧
    (writeValue (.text value)).toList = '"' :: escape value.toList ++ ['"'] ∧
    readValue ('"' :: escape value.toList ++ ['"']) = .ok value := by
  have hwritten := toList_writeValue_text value
  refine ⟨unescape_escape _, newline_not_mem_escape _, ?_, even_finalBackslashes_escape _, ?_,
    hwritten, ?_⟩
  · intro before after h
    exact odd_finalBackslashes_of_quote h
  · intro rest
    rw [unescape_escape_append, unescape_cons_of_ne (by decide)]
  · have hwritable : (Content.text value).IsWritable := trivial
    rw [← hwritten]
    apply Gives.readValue
    rw [trim_writeValue hwritable]
    exact gives_writeValue hwritable

end Worksheet.SavedSheet
