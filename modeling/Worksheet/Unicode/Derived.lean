import Worksheet.Unicode.Category
import Worksheet.Unicode.Listed

/-! # Derived properties

    Other properties of characters follow from general categories and lists, by
    the rules of the Unicode standard. -/

namespace Worksheet.Unicode

/-- The union of some categories and some sets. -/
def together (categories : List Category) (sets : List CharSet) : CharSet :=
  (Category.unionOf categories).union (.unions sets)

/-! ## Letters and words -/

/-- Characters in lower case. -/
def lowercase : CharSet := together [.lowercaseLetter] [otherLowercase]

/-- Characters in upper case. -/
def uppercase : CharSet := together [.uppercaseLetter] [otherUppercase]

/-- Characters that have a case. -/
def cased : CharSet := together [.titlecaseLetter] [lowercase, uppercase]

/-- Characters of alphabets. -/
def alphabetic : CharSet :=
  together (.letterNumber :: Category.letters) [lowercase, uppercase, otherAlphabetic]

/-- The characters of words: letters, marks, digits and what connects them. -/
def wordChars : CharSet :=
  together (.decimalNumber :: .connectorPunctuation :: Category.marks) [alphabetic, joinControl]

/-- Mathematical characters. -/
def math : CharSet := together [.mathSymbol] [otherMath]

/-- Characters that make no difference to the case of those around them. -/
def caseIgnorable : CharSet :=
  together [.nonspacingMark, .enclosingMark, .format, .modifierLetter, .modifierSymbol]
    [.ofWritten "27 2E 3A B7 387 55F 5F4 2018-2019 2024 2027 FE13 FE52 FE55 FF07 FF0E FF1A"]

/-! ## Graphemes -/

/-- Characters that belong to the one before them. -/
def graphemeExtend : CharSet := together [.nonspacingMark, .enclosingMark] [otherGraphemeExtend]

/-- Characters that others can belong to. -/
def graphemeBase : CharSet :=
  (together [.lineSeparator, .paragraphSeparator, .control, .format, .privateUse, .unassigned]
    [graphemeExtend]).compl

/-! ## Names -/

/-- Characters that names may begin with. -/
def idStart : CharSet :=
  (together (.letterNumber :: Category.letters) [otherIdStart]).diff
    (patternSyntax.union patternWhiteSpace)

/-- Characters that names may go on with. -/
def idContinue : CharSet :=
  together [.nonspacingMark, .spacingMark, .decimalNumber, .connectorPunctuation]
    [idStart, otherIdContinue]

/-- Characters that have a compatible form that names may not go on with. -/
def unlikeIdContinue : CharSet :=
  .ofWritten "37A 309B-309C FC5E-FC63 FDFA-FDFB FE70-FE7E/2"

/-- Characters that names may begin with, also in compatible form. -/
def xidStart : CharSet :=
  idStart.diff (unlikeIdContinue.union (.ofWritten "E33 EB3 FF9E-FF9F"))

/-- Characters that names may go on with, also in compatible form. -/
def xidContinue : CharSet := idContinue.diff unlikeIdContinue

/-! ## Changes of case -/

/-- Characters that lower case changes: the upper-case letters but for those that
    lack a lower-case form, and some others. -/
def changesLowercased : CharSet :=
  (together [.uppercaseLetter] []).symmDiff
    (.ofWritten
      "1C5 1C8 1CB 1F2 3D2-3D4 1F88-1F8F 1F98-1F9F 1FA8-1FAF 1FBC 1FCC 1FFC 2102 2107 210B-210D
       2110-2112 2115 2119-211D 2124 2128 212C-212D 2130-2131 2133 213E-213F 2145 2160-216F
       24B6-24CF 1D400-1D419 1D434-1D44D 1D468-1D481 1D49C 1D49E-1D49F 1D4A2 1D4A5-1D4A6
       1D4A9-1D4AC 1D4AE-1D4B5 1D4D0-1D4E9 1D504-1D505 1D507-1D50A 1D50D-1D514 1D516-1D51C
       1D538-1D539 1D53B-1D53E 1D540-1D544 1D546 1D54A-1D550 1D56C-1D585 1D5A0-1D5B9 1D5D4-1D5ED
       1D608-1D621 1D63C-1D655 1D670-1D689 1D6A8-1D6C0 1D6E2-1D6FA 1D71C-1D734 1D756-1D76E
       1D790-1D7A8 1D7CA")

/-- Characters that upper case changes: the lower-case letters but for those that
    lack an upper-case form, and some others. -/
def changesUppercased : CharSet :=
  (together [.lowercaseLetter] []).symmDiff
    (.ofWritten
      "138 18D 1AA-1AB 1BA 1BE 1C5 1C8 1CB 1F2 221 234-239 255 258 25A 25D-25F 262 267 26D-26E 270
       273-274 276-27C 27E-27F 281 284-286 28D-291 293 295-29C 29F-2AF 345 3FC 560 588 1D00-1D2B
       1D6B-1D77 1D7A-1D7C 1D7E-1D8D 1D8F-1D9A 1E9C-1E9D 1E9F 1F88-1F8F 1F98-1F9F 1FA8-1FAF 1FBC
       1FCC 1FFC 210A 210E-210F 2113 212F 2134 2139 213C-213D 2146-2149 2170-217F 24D0-24E9 2C71
       2C74 2C77-2C7B 2CE4 A730-A731 A771-A778 A78E A795 A7AF A7D3 A7D5 A7FA AB30-AB52 AB54-AB5A
       AB60-AB68 1D41A-1D433 1D44E-1D454 1D456-1D467 1D482-1D49B 1D4B6-1D4B9 1D4BB 1D4BD-1D4C3
       1D4C5-1D4CF 1D4EA-1D503 1D51E-1D537 1D552-1D56B 1D586-1D59F 1D5BA-1D5D3 1D5EE-1D607
       1D622-1D63B 1D656-1D66F 1D68A-1D6A5 1D6C2-1D6DA 1D6DC-1D6E1 1D6FC-1D714 1D716-1D71B
       1D736-1D74E 1D750-1D755 1D770-1D788 1D78A-1D78F 1D7AA-1D7C2 1D7C4-1D7C9 1D7CB 1DF00-1DF09
       1DF0B-1DF1E 1DF25-1DF2A")

/-- Characters that title case changes. -/
def changesTitlecased : CharSet :=
  changesUppercased.symmDiff
    (.ofWritten
      "1C4-1C5 1C7-1C8 1CA-1CB 1F1-1F2 10D0-10FA 10FD-10FF 1F88-1F8F 1F98-1F9F 1FA8-1FAF 1FBC 1FCC
       1FFC")

/-- Characters that folding changes. -/
def changesFolded : CharSet :=
  changesLowercased.symmDiff
    (.ofWritten
      "B5 DF 149 17F 345 3C2 3D0-3D1 3D5-3D6 3F0-3F1 3F5 587 13A0-13F5 13F8-13FD 1C80-1C88
       1E9A-1E9B 1F80-1F87 1F90-1F97 1FA0-1FA7 1FB2-1FB4 1FB7 1FC2-1FC4 1FC7 1FF2-1FF4 1FF7
       AB70-ABBF FB00-FB06 FB13-FB17")

/-- Characters that some change of case changes. -/
def changesCase : CharSet :=
  .unions [changesLowercased, changesUppercased, changesTitlecased]

end Worksheet.Unicode
