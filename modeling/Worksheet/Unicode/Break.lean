import Worksheet.Unicode.Derived

/-! # Breaks

    Texts are divided into graphemes, words and sentences.  Each division gives
    the characters roles, which the Unicode standard defines by other properties
    and short lists. -/

namespace Worksheet.Unicode

/-- A set of characters with its names in loose form. -/
structure Named where
  names : List String
  members : CharSet

/-- The carriage return. -/
def carriageReturn : Named := ⟨["cr"], .single '\r'⟩

/-- The line feed. -/
def lineFeed : Named := ⟨["lf"], .single '\n'⟩

/-- Format characters that stand before numbers. -/
def numberSigns : CharSet :=
  .ofWritten "600-605 6DD 890-891 8E2 110BD 110CD"

/-! ## Graphemes -/

namespace Grapheme

/-- Characters that belong to the one before them. -/
def extend : CharSet := graphemeExtend.union emojiModifier

/-- Characters that stand alone. -/
def control : CharSet :=
  (together [.lineSeparator, .paragraphSeparator, .control, .format]
    [Category.unassigned.members.inter defaultIgnorable]).diff
    (.unions [.ofWritten "A D 200D", prependedConcatenationMark, extend])

/-- Marks that belong to the character before them and take up space. -/
def spacing : CharSet :=
  (Category.spacingMark.members.diff (extend.union (.ofWritten
    "102B-102C 1038 1062-1064 1067-106D 1083 1087-108C 108F 109A-109C 1A61 1A63-1A64 AA7B AA7D
     11720-11721"))).union
    (.ofWritten "E33 EB3")

/-- Characters that belong to the one after them. -/
def prepended : CharSet :=
  .ofWritten
    "600-605 6DD 70F 890-891 8E2 D4E 110BD 110CD 111C2-111C3 113D1 1193F 11941 11A84-11A89 11D46
     11F02"

/-- Hangul syllables of two letters. -/
def syllablesOfTwo : CharSet := .ofWritten "AC00-D788/1C"

/-- Hangul syllables of three letters. -/
def syllablesOfThree : CharSet := (CharSet.ofWritten "AC00-D7A3").diff syllablesOfTwo

/-- The roles at breaks between graphemes. -/
def roles : List Named :=
  [⟨["cn", "control"], control⟩,
   carriageReturn,
   ⟨["ex", "extend"], extend⟩,
   ⟨["l"], .ofWritten "1100-115F A960-A97C"⟩,
   lineFeed,
   ⟨["lv"], syllablesOfTwo⟩,
   ⟨["lvt"], syllablesOfThree⟩,
   ⟨["pp", "prepend"], prepended⟩,
   ⟨["ri", "regionalindicator"], regionalIndicator⟩,
   ⟨["sm", "spacingmark"], spacing⟩,
   ⟨["t"], .ofWritten "11A8-11FF D7CB-D7FB"⟩,
   ⟨["v"], .ofWritten "1160-11A7 D7B0-D7C6 16D63 16D67-16D6A"⟩,
   ⟨["zwj"], .single '\u200d'⟩]

end Grapheme

/-! ## Words -/

namespace Word

/-- Characters that belong to the one before them. -/
def extend : CharSet :=
  (together [.spacingMark] [graphemeExtend, emojiModifier]).diff (.single '\u200d')

/-- Format characters, which make no difference inside words. -/
def format : CharSet :=
  Category.format.members.diff (.unions [.ofWritten "70F 200B-200D", numberSigns, extend])

/-- Katakana. -/
def katakana : CharSet :=
  .ofWritten
    "3031-3035 309B-309C 30A0-30FA 30FC-30FF 31F0-31FF 32D0-32FE 3300-3357 FF66-FF9D 1AFF0-1AFF3
     1AFF5-1AFFB 1AFFD-1AFFE 1B000 1B120-1B122 1B155 1B164-1B167"

/-- Hebrew letters. -/
def hebrewLetters : CharSet :=
  .ofWritten
    "5D0-5EA 5EF-5F2 FB1D FB1F-FB28 FB2A-FB36 FB38-FB3C FB3E FB40-FB41 FB43-FB44 FB46-FB4F"

/-- Letters of scripts with spaces between words: the alphabetic characters but
    for ideographs and letters of scripts without such spaces, and some signs. -/
def letters : CharSet :=
  (alphabetic.diff (.unions [ideographic, extend, katakana, hebrewLetters])).symmDiff
    (.ofWritten
      "B8 2C2-2C5 2D2-2D7 2DE-2DF 2E5-2EB 2ED 2EF-2FF 55A-55C 55E 58A 5F3 70F E01-E30 E32-E33
       E40-E46 E81-E82 E84 E86-E8A E8C-EA3 EA5 EA7-EB0 EB2-EB3 EBD EC0-EC4 EC6 EDC-EDF 1000-102A
       103F 1050-1055 105A-105D 1061 1065-1066 106E-1070 1075-1081 108E 1780-17B3 17D7 17DC
       1950-196D 1970-1974 1980-19AB 19B0-19C9 1A20-1A54 1AA7 3041-3096 309D-309F A708-A716
       A720-A721 A789-A78A A9E0-A9E4 A9E6-A9EF A9FA-A9FE AA60-AA76 AA7A AA7E-AAAF AAB1 AAB5-AAB6
       AAB9-AABD AAC0 AAC2 AADB-AADD AB5B 11700-1171A 11740-11746 1B001-1B11F 1B132 1B150-1B152")

/-- The roles at breaks between words. -/
def roles : List Named :=
  [carriageReturn,
   ⟨["dq", "doublequote"], .single '"'⟩,
   ⟨["ex", "extendnumlet"], together [.connectorPunctuation] [.single '\u202f']⟩,
   ⟨["extend"], extend⟩,
   ⟨["fo", "format"], format⟩,
   ⟨["hl", "hebrewletter"], hebrewLetters⟩,
   ⟨["ka", "katakana"], katakana⟩,
   ⟨["le", "aletter"], letters⟩,
   lineFeed,
   ⟨["mb", "midnumlet"], .ofWritten "2E 2018-2019 2024 FE52 FF07 FF0E"⟩,
   ⟨["ml", "midletter"], .ofWritten "3A B7 387 55F 5F4 2027 FE13 FE55 FF1A"⟩,
   ⟨["mn", "midnum"], .ofWritten "2C 3B 37E 589 60C-60D 66C 7F8 2044 FE50 FE54 FF0C FF1B"⟩,
   ⟨["nl", "newline"], .ofWritten "B-C 85 2028-2029"⟩,
   ⟨["nu", "numeric"], together [.decimalNumber] [.ofWritten "66B 19DA", numberSigns]⟩,
   ⟨["ri", "regionalindicator"], regionalIndicator⟩,
   ⟨["sq", "singlequote"], .single '\''⟩,
   ⟨["wsegspace"], .ofWritten "20 1680 2000-2006 2008-200A 205F 3000"⟩,
   ⟨["zwj"], .single '\u200d'⟩]

end Word

/-! ## Sentences -/

namespace Sentence

/-- Characters that separate paragraphs. -/
def separators : CharSet := .ofWritten "85 2028-2029"

/-- Characters that belong to the one before them. -/
def extend : CharSet := together [.spacingMark] [graphemeExtend, .single '\u200d']

/-- Letters in lower case. -/
def lower : CharSet := lowercase.diff (graphemeExtend.union (.ofWritten "10D0-10FA 10FD-10FF"))

/-- Letters in upper case. -/
def upper : CharSet :=
  (together [.titlecaseLetter] [uppercase]).diff (.ofWritten "1C90-1CBA 1CBD-1CBF")

/-- Full stops. -/
def fullStops : CharSet := .ofWritten "2E 2024 FE52 FF0E"

/-- Format characters, which make no difference inside sentences. -/
def format : CharSet := Category.format.members.diff (numberSigns.union extend)

/-- The roles at breaks between sentences. -/
def roles : List Named :=
  [⟨["at", "aterm"], fullStops⟩,
   ⟨["cl", "close"],
     together [.openPunctuation, .closePunctuation, .initialPunctuation, .finalPunctuation]
       [.ofWritten "22 27 275B-2760 2E00-2E01 2E06-2E08 2E0B 1F676-1F678"]⟩,
   carriageReturn,
   ⟨["ex", "extend"], extend⟩,
   ⟨["fo", "format"], format⟩,
   ⟨["le", "oletter"],
     (alphabetic.diff (.unions [extend, lower, upper])).union (.single '\u05f3')⟩,
   lineFeed,
   ⟨["lo", "lower"], lower⟩,
   ⟨["nu", "numeric"], together [.decimalNumber] [.ofWritten "66B-66C 19DA", numberSigns]⟩,
   ⟨["sc", "scontinue"],
     .ofWritten
       "2C-2D 3A-3B 37E 55D 60C-60D 7F8 1802 1808 2013-2014 3001 FE10-FE11 FE13-FE14 FE31-FE32
        FE50-FE51 FE54-FE55 FE58 FE63 FF0C-FF0D FF1A-FF1B FF64"⟩,
   ⟨["se", "sep"], separators⟩,
   ⟨["sp"], whiteSpace.diff (.unions [.ofWritten "A D", separators])⟩,
   ⟨["st", "sterm"], sentenceTerminal.diff fullStops⟩,
   ⟨["up", "upper"], upper⟩]

end Sentence

end Worksheet.Unicode
