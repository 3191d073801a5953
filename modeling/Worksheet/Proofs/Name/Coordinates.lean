import Mathlib
import Worksheet.Proofs.Formula.Lexeme
import Worksheet.Name.Coordinates

/-! # Names and coordinates determine each other

    A count is read digit by digit, and each step checks that it stays in range.
    What is checked on the way is never greater than the count that is written, so
    reading fails exactly if that count is out of range.  No count is lost and none
    is cut off.

    Bijective base 26 has no zero, so a column has its letters to itself: going
    from the index to the letters and back leads to the same column, and the
    letters grow with the column, first in length and then in text order. -/

namespace Worksheet.Name

variable {base n : Nat} {value : Char → Nat} {cs : List Char}

/-! ### Counting within the range -/

/-- The number that `cs` write, however great, with the digits that `value` gives. -/
def written (base : Nat) (value : Char → Nat) (cs : List Char) : Nat :=
  Nat.ofDigits base (cs.map value).reverse

/-- The column count that letters write. -/
def lettersValue (cs : List Char) : Nat :=
  written 26 letterValue cs

/-- The row count that decimal digits write. -/
def digitsValue (cs : List Char) : Nat :=
  written 10 digitValue cs

theorem written_concat (c : Char) :
    written base value (cs ++ [c]) = base * written base value cs + value c := by
  unfold written
  rw [List.map_append, List.map_singleton, List.reverse_concat, Nat.ofDigits_cons, Nat.add_comm]

theorem inRange?_of_lt (h : n < countLimit) : inRange? n = some n :=
  if_pos h

theorem inRange?_of_le (h : countLimit ≤ n) : inRange? n = none :=
  if_neg (Nat.not_lt.mpr h)

theorem inRange?_eq_some_iff {m : Nat} : inRange? n = some m ↔ n < countLimit ∧ n = m := by
  unfold inRange?
  split <;> simp_all

theorem index?_eq_some_iff {i : Nat} : index? n = some i ↔ n = i + 1 := by
  cases n <;> simp [index?]

/-- A step within the range fails exactly if its result is out of range. -/
theorem shiftIn?_eq (base n d : Nat) : shiftIn? base n d = inRange? (base * n + d) := by
  unfold shiftIn?
  by_cases hproduct : base * n < countLimit
  · rw [inRange?_of_lt hproduct]
    rfl
  · -- The sum is no less than the product.
    have hle : countLimit ≤ base * n := Nat.le_of_not_lt hproduct
    have hsum : countLimit ≤ base * n + d := Nat.le_add_right_of_le hle
    rw [inRange?_of_le hle, inRange?_of_le hsum]
    rfl

/-- **Reading a count**: it is found exactly if it is in range, and then it is the
    count that is written. -/
theorem count?_eq (hbase : 0 < base) (value : Char → Nat) (cs : List Char) :
    count? base value cs = inRange? (written base value cs) := by
  -- The last digit is taken off; what stands before it has been read by then.
  induction cs using List.reverseRecOn with
  | nil =>
    show some 0 = inRange? (written base value [])
    have hlimit : 0 < countLimit := by decide
    rw [written, List.map_nil, List.reverse_nil, Nat.ofDigits_nil, inRange?_of_lt hlimit]
  | append_singleton cs c ih =>
    have hstep : count? base value (cs ++ [c]) =
        (count? base value cs).bind fun n => shiftIn? base n (value c) := by
      unfold count?
      rw [List.foldlM_append]
      exact bind_congr fun n => bind_pure (shiftIn? base n (value c))
    rw [hstep, ih, written_concat]
    by_cases hlt : written base value cs < countLimit
    · rw [inRange?_of_lt hlt, Option.bind_some, shiftIn?_eq]
    · -- Once out of range, a count stays there.
      have hle : countLimit ≤ written base value cs := Nat.le_of_not_lt hlt
      have hproduct : written base value cs ≤ base * written base value cs :=
        Nat.le_mul_of_pos_left _ hbase
      rw [inRange?_of_le hle, Option.bind_none, inRange?_of_le (by omega)]

/-! ### Letters -/

theorem letterValue_toUpper (c : Char) : letterValue c.toUpper = letterValue c := by
  unfold letterValue
  rw [Char.toUpper_toUpper_eq_toUpper]

theorem toNat_of_isUpper {c : Char} (h : c.isUpper = true) : 65 ≤ c.toNat ∧ c.toNat ≤ 90 := by
  simpa [Char.isUpper, UInt32.le_iff_toNat_le] using h

/-- A letter counts from 1 to 26, and the number says which letter it is. -/
theorem letterValue_of_isUpper {c : Char} (h : c.isUpper = true) :
    1 ≤ letterValue c ∧ letterValue c ≤ 26 ∧ Char.ofNat ('A'.toNat + (letterValue c - 1)) = c := by
  have hlower : ¬ c.isLower = true := Char.not_isLower_of_isUpper h
  obtain ⟨hlow, hhigh⟩ := toNat_of_isUpper h
  have hvalue : letterValue c = c.toNat - 65 + 1 := by
    unfold letterValue
    rw [Char.toUpper_eq_of_not_isLower hlower]
    rfl
  have hnat : 'A'.toNat + (letterValue c - 1) = c.toNat := by
    show 65 + (letterValue c - 1) = c.toNat
    omega
  refine ⟨by omega, by omega, ?_⟩
  rw [hnat, Char.ofNat_toNat]

/-- Each number below 26 is the one before that of a letter. -/
theorem isUpper_letter {r : Nat} (h : r < 26) :
    (Char.ofNat ('A'.toNat + r)).isUpper = true ∧ letterValue (Char.ofNat ('A'.toNat + r)) = r + 1 := by
  interval_cases r <;> decide

theorem lettersValue_concat (c : Char) :
    lettersValue (cs ++ [c]) = 26 * lettersValue cs + letterValue c :=
  written_concat c

theorem lettersOf_zero : lettersOf 0 = [] := by
  rw [lettersOf, if_pos rfl]

theorem lettersOf_of_pos (h : 0 < n) :
    lettersOf n = lettersOf ((n - 1) / 26) ++ [Char.ofNat ('A'.toNat + (n - 1) % 26)] := by
  rw [lettersOf, if_neg (by omega)]

theorem lettersOf_ne_nil (h : 0 < n) : lettersOf n ≠ [] := by
  rw [lettersOf_of_pos h]
  exact List.concat_ne_nil _ _

theorem isUpper_of_mem_lettersOf {c : Char} (h : c ∈ lettersOf n) : c.isUpper = true := by
  induction n using Nat.strong_induction_on with
  | _ n ih =>
    by_cases hpos : 0 < n
    · rw [lettersOf_of_pos hpos] at h
      rcases List.mem_append.mp h with hfront | hlast
      · exact ih ((n - 1) / 26) (by omega) hfront
      · rw [List.mem_singleton.mp hlast]
        exact (isUpper_letter (Nat.mod_lt _ (by omega))).1
    · obtain rfl : n = 0 := by omega
      rw [lettersOf_zero] at h
      exact nomatch h

/-- The letters of a count write this count. -/
theorem lettersValue_lettersOf (n : Nat) : lettersValue (lettersOf n) = n := by
  induction n using Nat.strong_induction_on with
  | _ n ih =>
    by_cases hpos : 0 < n
    · have hfront := ih ((n - 1) / 26) (by omega)
      have hlast := (isUpper_letter (Nat.mod_lt (n - 1) (show 0 < 26 by omega))).2
      rw [lettersOf_of_pos hpos, lettersValue_concat, hfront, hlast]
      omega
    · obtain rfl : n = 0 := by omega
      rw [lettersOf_zero]
      rfl

/-- Upper-case letters are those of the count that they write. -/
theorem lettersOf_lettersValue (h : ∀ c ∈ cs, c.isUpper = true) :
    lettersOf (lettersValue cs) = cs := by
  induction cs using List.reverseRecOn with
  | nil => exact lettersOf_zero
  | append_singleton cs c ih =>
    have hfront := ih fun d hd => h d (List.mem_append_left [c] hd)
    obtain ⟨hone, htop, hletter⟩ := letterValue_of_isUpper (h c (by simp))
    -- There is no digit 0, so what is carried over to the front is counted down by one.
    have hdiv : (26 * lettersValue cs + letterValue c - 1) / 26 = lettersValue cs := by omega
    have hmod : (26 * lettersValue cs + letterValue c - 1) % 26 = letterValue c - 1 := by omega
    rw [lettersValue_concat, lettersOf_of_pos (by omega), hdiv, hmod, hfront, hletter]

theorem lettersValue_map_toUpper (cs : List Char) :
    lettersValue (cs.map Char.toUpper) = lettersValue cs := by
  have hsame : letterValue ∘ Char.toUpper = letterValue := funext letterValue_toUpper
  unfold lettersValue written
  rw [List.map_map, hsame]

/-- Letters of either case become the upper-case letters of their count. -/
theorem lettersOf_lettersValue_of_isAlpha (h : ∀ c ∈ cs, c.isAlpha = true) :
    lettersOf (lettersValue cs) = cs.map Char.toUpper := by
  rw [← lettersValue_map_toUpper]
  apply lettersOf_lettersValue
  intro c hc
  obtain ⟨d, hd, rfl⟩ := List.mem_map.mp hc
  rw [Char.isUpper_toUpper_eq_isAlpha]
  exact h d hd

theorem lettersValue_pos (h : ∀ c ∈ cs, c.isAlpha = true) (hcs : cs ≠ []) : 0 < lettersValue cs := by
  rw [Nat.pos_iff_ne_zero]
  intro hzero
  have hletters := lettersOf_lettersValue_of_isAlpha h
  rw [hzero, lettersOf_zero] at hletters
  exact hcs (List.map_eq_nil_iff.mp hletters.symm)

/-! ### The order of letters -/

/-- A difference within texts of one length stays whatever is put behind them. -/
theorem lt_append_of_lt {front back : List Char} (h : front < back)
    (hlength : front.length = back.length) (c d : Char) : front ++ [c] < back ++ [d] := by
  induction front generalizing back with
  | nil =>
    obtain rfl := List.length_eq_zero_iff.mp hlength.symm
    exact absurd h (List.lt_irrefl [])
  | cons a front ih =>
    obtain ⟨b, back, rfl⟩ := List.exists_cons_of_length_eq_add_one hlength.symm
    rw [List.cons_append, List.cons_append, List.cons_lt_cons_iff]
    rcases List.cons_lt_cons_iff.mp h with hlt | ⟨heq, hlt⟩
    · exact .inl hlt
    · exact .inr ⟨heq, ih hlt (Nat.succ.inj hlength)⟩

theorem letter_lt_letter {r s : Nat} (h : r < s) (hs : s < 26) :
    Char.ofNat ('A'.toNat + r) < Char.ofNat ('A'.toNat + s) := by
  interval_cases s <;> interval_cases r <;> decide

/-- The letters grow with the count, first in length and then in text order. -/
theorem lettersOf_lt {m : Nat} (h : n < m) : (lettersOf n).length < (lettersOf m).length ∨
    (lettersOf n).length = (lettersOf m).length ∧ lettersOf n < lettersOf m := by
  induction m using Nat.strong_induction_on generalizing n with
  | _ m ih =>
    rw [lettersOf_of_pos (show 0 < m by omega)]
    by_cases hpos : 0 < n
    · rw [lettersOf_of_pos hpos, List.length_append, List.length_append, List.length_singleton,
        List.length_singleton, Nat.add_lt_add_iff_right, Nat.add_right_cancel_iff]
      by_cases hfront : (n - 1) / 26 < (m - 1) / 26
      · -- The letters in front make the difference.
        rcases ih ((m - 1) / 26) (by omega) hfront with hlength | ⟨hlength, hlt⟩
        · exact .inl hlength
        · exact .inr ⟨hlength, lt_append_of_lt hlt hlength _ _⟩
      · -- The letters in front are the same, so the last one makes it.
        have hsame : (n - 1) / 26 = (m - 1) / 26 := by omega
        have hlast : (n - 1) % 26 < (m - 1) % 26 := by omega
        rw [hsame]
        refine .inr ⟨rfl, List.append_left_lt ?_⟩
        rw [List.cons_lt_cons_iff]
        exact .inl (letter_lt_letter hlast (Nat.mod_lt _ (by omega)))
    · obtain rfl : n = 0 := by omega
      rw [lettersOf_zero]
      exact .inl (by simp)

/-- Behind the last column with two letters is the first with three. -/
example : lettersOf 702 = ['Z', 'Z'] ∧ lettersOf 703 = ['A', 'A', 'A'] := by
  decide +kernel

/-! ### Digits -/

theorem digitsValue_concat (c : Char) :
    digitsValue (cs ++ [c]) = 10 * digitsValue cs + digitValue c :=
  written_concat c

theorem digitsValue_eq_ofDigitChars (cs : List Char) :
    digitsValue cs = Nat.ofDigitChars 10 cs 0 := by
  induction cs using List.reverseRecOn with
  | nil => rfl
  | append_singleton cs c ih =>
    rw [digitsValue_concat, ih, Nat.ofDigitChars_append, Nat.ofDigitChars_cons,
      Nat.ofDigitChars_nil]
    rfl

theorem digitsValue_toDigits (n : Nat) : digitsValue (Nat.toDigits 10 n) = n := by
  rw [digitsValue_eq_ofDigitChars, Nat.ofDigitChars_ten_toDigits]

theorem digitValue_of_isDigit {c : Char} (h : c.isDigit = true) :
    digitValue c < 10 ∧ Nat.digitChar (digitValue c) = c := by
  have hbounds : 48 ≤ c.toNat ∧ c.toNat ≤ 57 := by
    simpa [Char.isDigit, UInt32.le_iff_toNat_le] using h
  have hvalue : digitValue c = c.toNat - 48 := rfl
  have hlt : digitValue c < 10 := by omega
  refine ⟨hlt, Char.toNat_inj.mp ?_⟩
  rw [Nat.toNat_digitChar_of_lt_ten hlt]
  omega

/-- Without the zeros that they begin with, digits are those of the count that they
    write; nothing is left of zero. -/
theorem dropWhile_zero (h : ∀ c ∈ cs, c.isDigit = true) : cs.dropWhile (· = '0') =
    if digitsValue cs = 0 then [] else Nat.toDigits 10 (digitsValue cs) := by
  induction cs using List.reverseRecOn with
  | nil => rfl
  | append_singleton cs c ih =>
    have hfront := ih fun d hd => h d (List.mem_append_left [c] hd)
    obtain ⟨hlt, hchar⟩ := digitValue_of_isDigit (h c (by simp))
    rw [List.dropWhile_append, hfront, digitsValue_concat]
    by_cases hzero : digitsValue cs = 0
    · rw [if_pos hzero, hzero, List.isEmpty_nil, if_pos rfl, Nat.mul_zero, Nat.zero_add]
      by_cases hlast : digitValue c = 0
      · obtain rfl : c = '0' := by rw [← hchar, hlast]; rfl
        rfl
      · have hne : ¬ c = '0' := by
          rintro rfl
          exact hlast rfl
        rw [if_neg hlast, Nat.toDigits_of_lt_base hlt, hchar]
        simp [hne]
    · have hpos : 0 < digitsValue cs := Nat.pos_of_ne_zero hzero
      have hdigits := Nat.toDigits_append_toDigits (b := 10) (by omega) hpos hlt
      rw [Nat.toDigits_of_lt_base hlt, hchar] at hdigits
      rw [if_neg hzero, if_neg (by simp [Nat.toDigits_ne_nil]), if_neg (by omega), hdigits]

/-! ### Names -/

/-- The name is made of letters, and digits behind them. -/
structure IsMadeOf (name : String) (letters digits : List Char) : Prop where
  text : name.toList = letters ++ digits
  letters_ne : letters ≠ []
  isAlpha : ∀ c ∈ letters, c.isAlpha = true
  digits_ne : digits ≠ []
  isDigit : ∀ c ∈ digits, c.isDigit = true

variable {name : String} {letters digits : List Char}

theorem not_isAlpha_of_isDigit {c : Char} (h : c.isDigit = true) : c.isAlpha = false := by
  have hstart : isStart c = false := Formula.not_isStart_of_isDigit h
  rw [isStart, Bool.or_eq_false_iff] at hstart
  exact hstart.1

/-- The letters end where the digits begin. -/
theorem IsMadeOf.parts (h : IsMadeOf name letters digits) :
    Name.letters name = letters ∧ Name.number name = digits := by
  obtain ⟨d, rest, rfl⟩ := List.exists_cons_of_ne_nil h.digits_ne
  have hd : ¬ d.isAlpha = true := by
    rw [not_isAlpha_of_isDigit (h.isDigit d List.mem_cons_self)]
    exact Bool.false_ne_true
  unfold Name.letters Name.number
  rw [h.text, List.takeWhile_append_of_pos h.isAlpha, List.takeWhile_cons_of_neg hd,
    List.append_nil, List.dropWhile_append_of_pos h.isAlpha, List.dropWhile_cons_of_neg hd]
  exact ⟨rfl, rfl⟩

theorem isMadeOf_iff : IsMadeOf name letters digits ↔
    isCell name = true ∧ Name.letters name = letters ∧ Name.number name = digits := by
  constructor
  · intro h
    obtain ⟨hletters, hdigits⟩ := h.parts
    refine ⟨?_, hletters, hdigits⟩
    simpa [isCell, hletters, hdigits, h.letters_ne, h.digits_ne] using h.isDigit
  · rintro ⟨hcell, rfl, rfl⟩
    simp only [isCell, Bool.and_eq_true, decide_eq_true_eq, List.all_eq_true] at hcell
    exact ⟨List.takeWhile_append_dropWhile.symm, hcell.1.1, fun c hc => List.mem_takeWhile_imp hc,
      hcell.1.2, hcell.2⟩

namespace Coordinates

variable {c : Coordinates}

/-- A name with coordinates has both counts in range, and they are one more than
    the indices. -/
theorem ofName?_eq_some_iff (h : IsMadeOf name letters digits) : ofName? name = some c ↔
    lettersValue letters < countLimit ∧ digitsValue digits < countLimit ∧
      lettersValue letters = c.column + 1 ∧ digitsValue digits = c.row + 1 := by
  obtain ⟨hcell, hletters, hdigits⟩ := isMadeOf_iff.mp h
  have hcolumn : count? 26 letterValue letters = inRange? (lettersValue letters) :=
    count?_eq (by omega) letterValue letters
  have hrow : count? 10 digitValue digits = inRange? (digitsValue digits) :=
    count?_eq (by omega) digitValue digits
  unfold ofName?
  rw [if_pos hcell, hletters, hdigits, hcolumn, hrow]
  simp only [Option.bind_eq_bind, Option.bind_eq_some_iff, inRange?_eq_some_iff,
    index?_eq_some_iff]
  constructor
  · intro hfound
    obtain ⟨l, ⟨hl, rfl⟩, column, hcolumn, d, ⟨hd, rfl⟩, row, hrow, hc⟩ := hfound
    obtain rfl : ⟨row, column⟩ = c := Option.some.inj hc
    exact ⟨hl, hd, hcolumn, hrow⟩
  · intro ⟨hl, hd, hcolumn, hrow⟩
    exact ⟨_, ⟨hl, rfl⟩, c.column, hcolumn, _, ⟨hd, rfl⟩, c.row, hrow, rfl⟩

theorem isMadeOf_name (c : Coordinates) :
    IsMadeOf c.name (lettersOf (c.column + 1)) (Nat.toDigits 10 (c.row + 1)) where
  text := by simp [Coordinates.name, columnLetters]
  letters_ne := lettersOf_ne_nil (Nat.succ_pos _)
  isAlpha d hd := by simp [Char.isAlpha, isUpper_of_mem_lettersOf hd]
  digits_ne := Nat.toDigits_ne_nil
  isDigit d hd := Nat.isDigit_of_mem_toDigits (by omega) (by omega) hd

/-- Only letters and digits have coordinates. -/
theorem isMadeOf_of_ofName? (h : ofName? name = some c) :
    IsMadeOf name (Name.letters name) (Name.number name) := by
  unfold ofName? at h
  split at h
  · next hcell => exact isMadeOf_iff.mpr ⟨hcell, rfl, rfl⟩
  · exact nomatch h

/-- The name of coordinates has the letters and the digits of every name that
    stands for them, in upper case and without the zeros in front. -/
theorem toList_name_of_ofName? (h : ofName? name = some c) (hmade : IsMadeOf name letters digits) :
    c.name.toList = letters.map Char.toUpper ++ digits.dropWhile (· = '0') := by
  obtain ⟨-, -, hcolumn, hrow⟩ := (ofName?_eq_some_iff hmade).mp h
  have hletters := lettersOf_lettersValue_of_isAlpha hmade.isAlpha
  have hdigits := dropWhile_zero hmade.isDigit
  rw [hcolumn] at hletters
  rw [if_neg (by omega), hrow] at hdigits
  rw [c.isMadeOf_name.text, hletters, hdigits]

theorem ofName?_name (hcolumn : c.column + 1 < countLimit) (hrow : c.row + 1 < countLimit) :
    ofName? c.name = some c := by
  rw [ofName?_eq_some_iff c.isMadeOf_name, lettersValue_lettersOf, digitsValue_toDigits]
  exact ⟨hcolumn, hrow, rfl, rfl⟩

/-- **Names and coordinates**: a name stands for coordinates exactly if it is made
    of letters and digits that write counts from 1 to `2 ^ 64 - 1`; the indices are
    one less, and their own name is the same in upper case and without zeros in
    front.  The letters of a column are the only upper-case letters that write its
    count, and they grow with it, first in length and then in text order.  The name
    of coordinates whose counts are in range stands for them again. -/
theorem ofName?_name_exact :
    (∀ (name : String) (c : Coordinates), ofName? name = some c ↔
      ∃ letters digits, IsMadeOf name letters digits ∧ lettersValue letters ≤ 2 ^ 64 - 1 ∧
        1 ≤ digitsValue digits ∧ digitsValue digits ≤ 2 ^ 64 - 1 ∧
        c.column = lettersValue letters - 1 ∧ c.row = digitsValue digits - 1) ∧
    (∀ (name : String) (c : Coordinates) (letters digits : List Char),
      ofName? name = some c → IsMadeOf name letters digits →
      c.name = String.ofList (letters.map Char.toUpper ++ digits.dropWhile (· = '0'))) ∧
    (∀ column, columnLetters column ≠ "" ∧
      (∀ c ∈ (columnLetters column).toList, c.isUpper = true) ∧
      lettersValue (columnLetters column).toList = column + 1 ∧
      ∀ letters : String, (∀ c ∈ letters.toList, c.isUpper = true) →
        lettersValue letters.toList = column + 1 → letters = columnLetters column) ∧
    (∀ a b, a < b → (columnLetters a).length < (columnLetters b).length ∨
      (columnLetters a).length = (columnLetters b).length ∧ columnLetters a < columnLetters b) ∧
    ∀ c : Coordinates, c.column < 2 ^ 64 - 1 → c.row < 2 ^ 64 - 1 → ofName? c.name = some c := by
  have hlimit : countLimit = 2 ^ 64 := rfl
  refine ⟨fun name c => ⟨fun h => ?_, ?_⟩, fun name c letters digits h hmade => ?_,
    fun column => ⟨fun hempty => ?_, ?_, ?_, ?_⟩, fun a b h => ?_, fun c hcolumn hrow => ?_⟩
  · have hmade := isMadeOf_of_ofName? h
    obtain ⟨hl, hd, hcolumn, hrow⟩ := (ofName?_eq_some_iff hmade).mp h
    exact ⟨_, _, hmade, by omega, by omega, by omega, by omega, by omega⟩
  · intro ⟨letters, digits, hmade, hl, hpos, hd, hcolumn, hrow⟩
    have hletters := lettersValue_pos hmade.isAlpha hmade.letters_ne
    rw [ofName?_eq_some_iff hmade]
    omega
  · rw [← toList_name_of_ofName? h hmade, String.ofList_toList]
  · have hnil := congrArg String.toList hempty
    rw [columnLetters, String.toList_ofList] at hnil
    exact lettersOf_ne_nil (Nat.succ_pos column) hnil
  · intro c hc
    rw [columnLetters, String.toList_ofList] at hc
    exact isUpper_of_mem_lettersOf hc
  · rw [columnLetters, String.toList_ofList, lettersValue_lettersOf]
  · intro letters hupper hvalue
    have hletters := lettersOf_lettersValue hupper
    rw [hvalue] at hletters
    rw [columnLetters, hletters, String.ofList_toList]
  · unfold columnLetters
    rw [String.length_ofList, String.length_ofList, String.lt_iff_toList_lt, String.toList_ofList,
      String.toList_ofList]
    exact lettersOf_lt (Nat.succ_lt_succ h)
  · exact ofName?_name (by omega) (by omega)

end Coordinates

end Worksheet.Name
