import Worksheet.Pattern.Mode
import Worksheet.Unicode.Derived

/-! # Groups

    An opening parenthesis begins a group, which may have a name or flags of its
    own, or holds nothing but flags for the rest of the group around it. -/

namespace Worksheet.Pattern

/-- What an opening parenthesis stands for. -/
inductive Opening where
  /-- Flags for the rest of the surrounding group. -/
  | flags (letters : List Char)
  | group
  | named (name : List Char)
  | flagged (letters : List Char)
  deriving DecidableEq, Repr

/-- The letters of all flags, and the sign that switches off the flags behind
    it. -/
def flagLetters : List Char :=
  ['i', 'm', 's', 'U', 'u', 'R', 'x', '-']

/-- Reads flags up to the colon or parenthesis at their end, where `seen` are
    those before, last first.  None may come twice, and a hyphen needs a flag
    after it. -/
def readFlags (seen : List Char) : List Char → Option (Opening × List Char)
  | [] => none
  | c :: rest =>
    if c = ':' ∨ c = ')' then
      if seen.head? = some '-' then none
      else if c = ':' then some (.flagged seen.reverse, rest)
      else if seen = [] then none
      else some (.flags seen.reverse, rest)
    else if flagLetters.contains c ∧ ¬ seen.contains c then readFlags (c :: seen) rest
    else none

/-- The alphabetic characters that names of groups may have, where those of version
    17 of the standard are added. -/
def nameLetters : CharSet :=
  Unicode.alphabetic.union
    (.ofWritten
      "88F C5C CDC A7CE-A7CF A7D2 A7D4 A7F1 10940-10959 10EC5-10EC7 10EFA-10EFB 11B60-11B67
       11DB0-11DDB 16EA0-16EB8 16EBB-16ED3 16FF2-16FF6 187F8-187FF 18D09-18D1E 18D80-18DF2
       1E6C0-1E6DE 1E6E0-1E6F5 1E6FE-1E6FF 2B73A-2B73F 2CEA2-2CEAD 323B0-33479")

/-- The numbers that names of groups may have, where those of version 17 of the
    standard are added. -/
def nameNumbers : CharSet :=
  (Unicode.Category.unionOf Unicode.Category.numbers).union (.ofWritten "11DE0-11DE9 16FF4-16FF6")

/-- Can the name of a group begin with `c`? -/
def isGroupNameStart (c : Char) : Bool :=
  c = '_' || nameLetters.contains c

/-- Can the name of a group go on with `c`? -/
def isGroupNameChar (c : Char) : Bool :=
  isGroupNameStart c || c = '.' || c = '[' || c = ']' || nameNumbers.contains c

/-- Reads the name of a group up to the angle bracket at its end. -/
def readGroupName (cs : List Char) : Option (Opening × List Char) :=
  let name := cs.takeWhile (· ≠ '>')
  match name, cs.drop name.length with
  | c :: more, '>' :: rest =>
    if isGroupNameStart c ∧ more.all isGroupNameChar then some (.named name, rest) else none
  | _, _ => none

/-- Reads what follows an opening parenthesis.  Conditions on the text around a
    group are not among the things it can stand for. -/
def readOpening (m : Mode) (cs : List Char) : Option (Opening × List Char) :=
  match m.skip cs with
  | '?' :: 'P' :: '<' :: rest => readGroupName rest
  | '?' :: '<' :: c :: rest => if c = '=' ∨ c = '!' then none else readGroupName (c :: rest)
  | '?' :: rest => readFlags [] rest
  | rest => some (.group, rest)

end Worksheet.Pattern
