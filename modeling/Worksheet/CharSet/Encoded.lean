import Worksheet.CharSet.Basic

/-! # Encoded sets

    In UTF-8 a character is a sequence of one to four bytes.  A set of characters
    becomes a list of sequences of byte ranges: a character is a member when the
    bytes of its encoded form are in the ranges of one sequence, one by one. -/

namespace Worksheet.CharSet

/-- A range of bytes, both ends included. -/
structure ByteRange where
  first : UInt8
  last : UInt8
  deriving DecidableEq, Repr

namespace Span

/-- What a range shares with another. -/
def within? (span bounds : Span) : Option Span :=
  let first := max span.first bounds.first
  let last := min span.last bounds.last
  if first ≤ last then some ⟨first, last⟩ else none

/-- The code points whose encoded forms have the same length.  Surrogates have no
    encoded form. -/
def lengthClasses : List Span :=
  [⟨0, 0x7f⟩, ⟨0x80, 0x7ff⟩, ⟨0x800, 0xd7ff⟩, ⟨0xe000, 0xffff⟩, ⟨0x10000, 0x10ffff⟩]

/-- A range cut into blocks of `size` code points: the whole blocks in it go on to
    `next`, and what is left at either end stays as it is.  A range inside one
    block is not cut. -/
def cut (size : Nat) (next : Span → List Span) (span : Span) : List Span :=
  let firstBlock := span.first / size
  let lastBlock := span.last / size
  if firstBlock = lastBlock then [span]
  else
    let start := if span.first % size = 0 then firstBlock else firstBlock + 1
    let past := if (span.last + 1) % size = 0 then lastBlock + 1 else lastBlock
    (if firstBlock < start then [⟨span.first, start * size - 1⟩] else []) ++
      (if start < past then next ⟨start * size, past * size - 1⟩ else []) ++
      (if past ≤ lastBlock then [⟨past * size, span.last⟩] else [])

/-- Ranges that make up `span`, in each of which every byte of the encoded forms
    goes through a range of its own. -/
def regular (span : Span) : List Span :=
  (lengthClasses.filterMap span.within?).flatMap fun part =>
    if part.last < 0x80 then [part]
    else part.cut 0x40 fun part => part.cut 0x1000 fun part => part.cut 0x40000 fun part => [part]

/-- The ranges of the bytes of a range of characters. -/
def byteRanges (span : Span) : List ByteRange :=
  List.zipWith ByteRange.mk (String.utf8EncodeChar (Char.ofNat span.first))
    (String.utf8EncodeChar (Char.ofNat span.last))

end Span

/-- The sequences of byte ranges for a set, in the order of the characters. -/
def encoded (s : CharSet) : List (List ByteRange) :=
  s.spans.flatMap fun span => span.regular.map Span.byteRanges

end Worksheet.CharSet
