import Mathlib.Data.List.DropRight
import Mathlib.Data.List.TakeWhile
import Worksheet.Text.Blank
import Worksheet.Text.Split

/-! # Trimming and splitting

    A text that neither begins nor ends with a blank is trimmed to itself, and
    every trimmed text is such a text.  Lines that have no line feed of their
    own are told apart again by splitting. -/

namespace Worksheet.Text

variable {cs : List Char}

/-! ### Trimming -/

theorem trimLeft_eq_self (h : ∀ c, cs.head? = some c → isBlank c = false) : trimLeft cs = cs := by
  cases cs with
  | nil => rfl
  | cons c cs => rw [trimLeft, List.dropWhile_cons_of_neg (by simp [h c rfl])]

theorem trimRight_eq_self (h : ∀ c, cs.getLast? = some c → isBlank c = false) :
    trimRight cs = cs := by
  have hreverse : trimLeft cs.reverse = cs.reverse := by
    apply trimLeft_eq_self
    rwa [List.head?_reverse]
  rw [trimRight, ← trimLeft, hreverse, List.reverse_reverse]

/-- A text without a blank at either end stays as it is. -/
theorem trim_eq_self (hfirst : ∀ c, cs.head? = some c → isBlank c = false)
    (hlast : ∀ c, cs.getLast? = some c → isBlank c = false) : trim cs = cs := by
  rw [trim, trimLeft_eq_self hfirst, trimRight_eq_self hlast]

theorem trim_eq_self_of_not_isBlank (h : ∀ c ∈ cs, isBlank c = false) : trim cs = cs :=
  trim_eq_self (fun c hc => h c (List.mem_of_head? hc)) fun c hc => h c (List.mem_of_getLast? hc)

theorem trim_cons_of_isBlank {c : Char} (h : isBlank c = true) (cs : List Char) :
    trim (c :: cs) = trim cs := by
  rw [trim, trimLeft, List.dropWhile_cons_of_pos h, ← trimLeft, ← trim]

/-- A blank at the end does not count. -/
theorem trim_concat_of_isBlank {c : Char} (h : isBlank c = true) (cs : List Char) :
    trim (cs ++ [c]) = trim cs := by
  have hright (ds : List Char) : trimRight (ds ++ [c]) = trimRight ds :=
    List.rdropWhile_concat_pos isBlank ds c h
  rw [trim, trim, trimLeft, List.dropWhile_append]
  split
  · next hall =>
    -- All is blank then, the last character too.
    rw [trimLeft, List.isEmpty_iff.mp hall, List.dropWhile_cons_of_pos h, List.dropWhile_nil]
  · exact hright (trimLeft cs)

/-- What begins with another character than a blank is trimmed at its end only. -/
theorem trim_cons_of_not_isBlank {c : Char} (h : isBlank c = false) (cs : List Char) :
    trim (c :: cs) = c :: trimRight cs := by
  have hleft : trimLeft (c :: cs) = c :: cs := List.dropWhile_cons_of_neg (by simp [h])
  rw [trim, hleft, trimRight, trimRight, List.reverse_cons, List.dropWhile_append]
  split
  · next hall => rw [List.isEmpty_iff.mp hall, List.dropWhile_cons_of_neg (by simp [h])]; rfl
  · rw [List.reverse_concat]

/-- Blanks in front do not count. -/
theorem trim_blanks_append {blanks : List Char} (h : ∀ c ∈ blanks, isBlank c = true)
    (cs : List Char) : trim (blanks ++ cs) = trim cs := by
  induction blanks with
  | nil => rfl
  | cons c blanks ih =>
    rw [List.forall_mem_cons] at h
    rw [List.cons_append, trim_cons_of_isBlank h.1, ih h.2]

/-- Blanks at the end do not count either. -/
theorem trim_append_blanks {blanks : List Char} (h : ∀ c ∈ blanks, isBlank c = true)
    (cs : List Char) : trim (cs ++ blanks) = trim cs := by
  induction blanks using List.reverseRecOn with
  | nil => rw [List.append_nil]
  | append_singleton blanks c ih =>
    have hc : isBlank c = true := h c (by simp)
    rw [← List.append_assoc, trim_concat_of_isBlank hc, ih fun d hd => h d (by simp [hd])]

theorem trimLeft_append_cons {c : Char} (h : isBlank c = false) (front back : List Char) :
    trimLeft (front ++ c :: back) = trimLeft front ++ c :: back := by
  have hback : (c :: back).dropWhile isBlank = c :: back :=
    List.dropWhile_cons_of_neg (by simp [h])
  rw [trimLeft, trimLeft, List.dropWhile_append, hback]
  split
  · next hall => rw [List.isEmpty_iff.mp hall, List.nil_append]
  · rfl

/-- Around a character that is no blank, trimming is left to the two sides. -/
theorem trim_append_cons {c : Char} (h : isBlank c = false) (front back : List Char) :
    trim (front ++ c :: back) = trimLeft front ++ c :: trimRight back := by
  have hright := trimLeft_append_cons h back.reverse (trimLeft front).reverse
  rw [trim, trimLeft_append_cons h, trimRight, List.reverse_append, List.reverse_cons,
    List.append_assoc, List.singleton_append, ← trimLeft, hright, List.reverse_append,
    List.reverse_cons, List.reverse_reverse, List.append_assoc, List.singleton_append]
  rfl

theorem trim_trimLeft (cs : List Char) : trim (trimLeft cs) = trim cs := by
  have hleft : trimLeft (trimLeft cs) = trimLeft cs := List.dropWhile_idempotent isBlank cs
  rw [trim, hleft, trim]

theorem trim_trimRight (cs : List Char) : trim (trimRight cs) = trim cs := by
  -- What is taken off at the right are blanks.
  have hsplit : trimRight cs ++ cs.rtakeWhile isBlank = cs :=
    List.rdropWhile_append_rtakeWhile
  have hblanks : ∀ c ∈ cs.rtakeWhile isBlank, isBlank c = true :=
    fun c hc => List.mem_rtakeWhile_imp hc
  calc trim (trimRight cs)
    _ = trim (trimRight cs ++ cs.rtakeWhile isBlank) := (trim_append_blanks hblanks _).symm
    _ = trim cs := by rw [hsplit]

/-- What a text begins with is not decided by what is taken off at its end. -/
theorem head?_trim (cs : List Char) : (trim cs).head? = (trimLeft cs).head? := by
  induction cs with
  | nil => rfl
  | cons c cs ih =>
    cases h : isBlank c with
    | true => rwa [trim_cons_of_isBlank h, trimLeft, List.dropWhile_cons_of_pos h]
    | false => rw [trim_cons_of_not_isBlank h, trimLeft, List.dropWhile_cons_of_neg (by simp [h])]; rfl

/-- Trimmed text does not change any more. -/
theorem trim_trim (cs : List Char) : trim (trim cs) = trim cs := by
  induction cs with
  | nil => rfl
  | cons c cs ih =>
    cases h : isBlank c with
    | true => rwa [trim_cons_of_isBlank h]
    | false =>
      have hright : trimRight (trimRight cs) = trimRight cs :=
        List.rdropWhile_idempotent isBlank cs
      rw [trim_cons_of_not_isBlank h, trim_cons_of_not_isBlank h, hright]

/-- Trimming only leaves characters out. -/
theorem trim_sublist (cs : List Char) : (trim cs).Sublist cs := by
  have hright : (trim cs).Sublist (trimLeft cs) :=
    (List.rdropWhile_prefix isBlank (trimLeft cs)).sublist
  exact hright.trans (List.dropWhile_sublist isBlank)

/-- A trimmed text does not end with a blank. -/
theorem not_isBlank_getLast_of_trim (h : trim cs = cs) {c : Char} (hc : cs.getLast? = some c) :
    isBlank c = false := by
  rw [← h, trim, trimRight, List.getLast?_reverse] at hc
  have hhead := List.head?_dropWhile_not isBlank (trimLeft cs).reverse
  rw [hc] at hhead
  simpa using hhead

/-- What is put in front of a trimmed text must not begin with a blank. -/
theorem trim_append_eq_self {c : Char} {front back : List Char} (hfront : front.head? = some c)
    (hc : isBlank c = false) (hback : back ≠ []) (htrim : trim back = back) :
    trim (front ++ back) = front ++ back := by
  apply trim_eq_self
  · intro d hd
    rw [List.head?_append, hfront, Option.some_or] at hd
    rwa [← Option.some.inj hd]
  · intro d hd
    have hlast := List.getLast?_eq_some_getLast hback
    rw [List.getLast?_append, hlast, Option.some_or] at hd
    exact not_isBlank_getLast_of_trim htrim (hlast.trans hd)

/-! ### Splitting -/

theorem split_nil (separator : Char) : split separator [] = [[]] := by
  rw [split]
  rfl

/-- A line that has no separator of its own is the first part. -/
theorem split_append {separator : Char} {line : List Char} (h : separator ∉ line)
    (rest : List Char) :
    split separator (line ++ separator :: rest) = line :: split separator rest := by
  have hline : ∀ c ∈ line, decide (c ≠ separator) = true := by
    intro c hc
    rw [decide_eq_true_iff]
    rintro rfl
    exact h hc
  have hfirst : (line ++ separator :: rest).takeWhile (fun c => decide (c ≠ separator)) = line := by
    rw [List.takeWhile_append_of_pos hline, List.takeWhile_cons_of_neg (by simp), List.append_nil]
  have hdrop : (line ++ separator :: rest).drop (line.length + 1) = rest := by
    rw [← List.drop_drop, List.drop_left, List.drop_one, List.tail_cons]
  rw [split, hfirst, if_pos (by simp), hdrop]

/-- Without a separator there is one part. -/
theorem split_of_notMem {separator : Char} (h : separator ∉ cs) : split separator cs = [cs] := by
  have hall : ∀ c ∈ cs, decide (c ≠ separator) = true := by
    intro c hc
    rw [decide_eq_true_iff]
    rintro rfl
    exact h hc
  rw [split, List.takeWhile_eq_self_iff.mpr hall, if_neg (Nat.lt_irrefl _)]

/-- What holds of one part, and of one more part in front of others, holds of every
    text. -/
theorem parts_induction {separator : Char} {motive : List Char → Prop}
    (last : ∀ line, separator ∉ line → motive line)
    (more : ∀ line rest, separator ∉ line → motive rest → motive (line ++ separator :: rest))
    (cs : List Char) : motive cs := by
  induction hlength : cs.length using Nat.strong_induction_on generalizing cs with
  | _ n ih =>
    by_cases hmem : separator ∈ cs
    · obtain ⟨line, rest, rfl, hline⟩ := List.eq_append_cons_of_mem hmem
      have hshorter : rest.length < n := by
        rw [← hlength, List.length_append, List.length_cons]
        omega
      exact more line rest hline (ih rest.length hshorter rest rfl)
    · exact last cs hmem

/-- A separator, wherever it stands, has the parts of the two sides. -/
theorem split_append_cons (separator : Char) (front back : List Char) :
    split separator (front ++ separator :: back) =
      split separator front ++ split separator back := by
  induction front using @parts_induction separator with
  | last line hline => rw [split_append hline, split_of_notMem hline, List.singleton_append]
  | more line rest hline ih =>
    rw [List.append_assoc, List.cons_append, split_append hline, split_append hline, ih,
      List.cons_append]

/-- There is one part more than there are separators. -/
theorem length_split (separator : Char) (cs : List Char) :
    (split separator cs).length = cs.count separator + 1 := by
  induction cs using @parts_induction separator with
  | last line hline =>
    rw [split_of_notMem hline, List.count_eq_zero.mpr hline]
    rfl
  | more line rest hline ih =>
    rw [split_append hline, List.length_cons, ih, List.count_append, List.count_eq_zero.mpr hline,
      List.count_cons_self]
    omega

/-- Lines that are each ended by a separator are the parts, with nothing behind
    the last separator. -/
theorem split_flatMap {separator : Char} {lines : List (List Char)}
    (h : ∀ line ∈ lines, separator ∉ line) :
    split separator (lines.flatMap (· ++ [separator])) = lines ++ [[]] := by
  induction lines with
  | nil => exact split_nil separator
  | cons line lines ih =>
    have hrest := ih fun other hother => h other (List.mem_cons_of_mem _ hother)
    rw [List.flatMap_cons, List.append_assoc, List.singleton_append,
      split_append (h line (by simp)), hrest, List.cons_append]

/-- The separator is in none of the parts. -/
theorem notMem_of_mem_split {separator : Char} {part : List Char}
    (h : part ∈ split separator cs) : separator ∉ part := by
  fun_induction split separator cs with
  | case1 cs first hlt ih =>
    rcases List.mem_cons.mp h with rfl | hrest
    · intro hmem
      simpa using List.mem_takeWhile_imp hmem
    · exact ih hrest
  | case2 cs first hall =>
    rw [List.mem_singleton.mp h]
    intro hmem
    simpa using List.mem_takeWhile_imp hmem

end Worksheet.Text
