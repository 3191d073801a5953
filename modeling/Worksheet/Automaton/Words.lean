import Worksheet.Automaton.Extent

/-! # Automata for words

    A choice from words becomes a tree that reads what they begin with together.
    Where one word ends inside another, the words before and after it in the
    choice are read apart, so that earlier words keep coming first. -/

namespace Worksheet.Automaton

/-- The words that pass through a place of a tree, as what is left of them from
    there on, in the order of the choice. -/
abbrev Words := List (List UInt8)

namespace Words

/-- The words between the ends of words at this place.  Of several ends before all
    that goes on, only one counts. -/
def sections (words : Words) : List Words :=
  let words := match words with
    | [] :: rest => [] :: rest.dropWhile (· = [])
    | words => words
  words.foldr
    (fun word sections =>
      match word, sections with
      | [], sections => [] :: sections
      | word, first :: others => (word :: first) :: others
      | word, [] => [[word]])
    [[]]

/-- The bytes that words begin with. -/
def firsts (words : Words) : List UInt8 :=
  (words.filterMap List.head?).eraseDups

/-- What is left of the words that begin with a byte. -/
def after (words : Words) (byte : UInt8) : Words :=
  (words.filter fun word => word.head? = some byte).map List.tail

/-- Grows by the states for a place and all places behind it, down to the given
    depth.  A place where all words end needs no state.  Every section of another
    place has a state that reads the first bytes, and one state leads on to
    the sections and the ends between them. -/
def grow : Nat → Words → Extent → Extent
  | 0, _, e => e
  | depth + 1, words, e =>
    if words.all (· = []) then e
    else
      let readers := words.sections.filter (· ≠ [])
      let e := readers.foldl
        (fun (e : Extent) (part : Words) =>
          let e := part.firsts.foldl (fun e byte => grow depth (part.after byte) e) e
          if part.firsts.length = 1 then e.addPlain else e.addReader part.firsts.length)
        e
      e.addFork (readers.length + (words.sections.length - 1))

/-- What a choice from words adds to an automaton: the state that all of them lead
    to, and the tree. -/
def growth (words : Words) : Growth :=
  .within fun e => words.grow (words.foldl (fun n word => n + word.length) 0) e.addPlain

end Words

end Worksheet.Automaton
