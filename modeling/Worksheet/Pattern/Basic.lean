import Worksheet.CharSet.Basic

/-! # Patterns

    A pattern describes texts: characters from sets, places between characters,
    sequences, choices and repetitions. -/

namespace Worksheet

/-- A condition on a place between characters, by the word characters around
    it. -/
inductive WordPlace where
  | edge
  | noEdge
  | start
  | finish
  /-- No word character comes before the place. -/
  | noneBefore
  /-- No word character comes after the place. -/
  | noneAfter
  deriving DecidableEq, Repr

/-- A condition on a place between the characters of a text. -/
inductive Look where
  | textStart
  | textEnd
  /-- The start of the text or of a line in it.  Lines end with a line feed, or
      also with a carriage return if `anyEnd` says so. -/
  | lineStart (anyEnd : Bool)
  | lineEnd (anyEnd : Bool)
  /-- The words have ASCII characters only if `inAscii` says so. -/
  | word (place : WordPlace) (inAscii : Bool)
  deriving DecidableEq, Repr

/-- How often something is repeated. -/
structure Repetitions where
  least : Nat
  most : Option Nat
  /-- Are many repetitions tried before few? -/
  isGreedy : Bool
  deriving DecidableEq, Repr

/-- A pattern. -/
inductive Pattern where
  /-- The empty text. -/
  | empty
  | literal (text : List Char)
  /-- One character of the set.  A set `inBytes` was written where patterns are
      about bytes; its members are ASCII characters. -/
  | one (members : CharSet) (inBytes : Bool)
  /-- The empty text, at a place of this kind. -/
  | look (place : Look)
  | times (p : Pattern) (repetitions : Repetitions)
  | group (number : Nat) (p : Pattern)
  | seq (p q : Pattern)
  | alt (p q : Pattern)
  deriving DecidableEq, Repr

end Worksheet
