import Worksheet.Unicode.Age
import Worksheet.Unicode.Break
import Worksheet.Unicode.Script

/-! # Looking up properties

    Properties and their values are known by names, which are compared in loose
    form: case, spaces, hyphens and underscores make no difference. -/

namespace Worksheet.Unicode

/-- The loose form of a name: in lower case, without spaces, underscores,
    hyphens, characters beyond ASCII and an `is` in front.  The name `isc` is not
    short for `c`. -/
def looseName (cs : List Char) : String :=
  let lower := cs.map Char.toLower
  let marked := ['i', 's'].isPrefixOf lower
  let bare := (if marked then lower.drop 2 else lower).filter fun c =>
    c ≠ ' ' && c ≠ '_' && c ≠ '-' && c.toNat < 0x80
  if marked ∧ bare = ['c'] then "isc" else String.ofList bare

/-- The set with this name in loose form. -/
def Named.find? (sets : List Named) (name : String) : Option CharSet :=
  (sets.find? fun set => set.names.contains name).map Named.members

/-- The properties that a character has or has not. -/
def properties : List Named :=
  [⟨["alpha", "alphabetic"], alphabetic⟩,
   ⟨["ahex", "asciihexdigit"], asciiHexDigit⟩,
   ⟨["bidic", "bidicontrol"], bidiControl⟩,
   ⟨["bidim", "bidimirrored"], bidiMirrored⟩,
   ⟨["cased"], cased⟩,
   ⟨["ci", "caseignorable"], caseIgnorable⟩,
   ⟨["cwcf", "changeswhencasefolded"], changesFolded⟩,
   ⟨["cwcm", "changeswhencasemapped"], changesCase⟩,
   ⟨["cwl", "changeswhenlowercased"], changesLowercased⟩,
   ⟨["cwt", "changeswhentitlecased"], changesTitlecased⟩,
   ⟨["cwu", "changeswhenuppercased"], changesUppercased⟩,
   ⟨["dash"], dash⟩,
   ⟨["di", "defaultignorablecodepoint"], defaultIgnorable⟩,
   ⟨["dep", "deprecated"], deprecated⟩,
   ⟨["dia", "diacritic"], diacritic⟩,
   ⟨["emoji"], emoji⟩,
   ⟨["ecomp", "emojicomponent"], emojiComponent⟩,
   ⟨["emod", "emojimodifier"], emojiModifier⟩,
   ⟨["ebase", "emojimodifierbase"], emojiModifierBase⟩,
   ⟨["epres", "emojipresentation"], emojiPresentation⟩,
   ⟨["extpict", "extendedpictographic"], extendedPictographic⟩,
   ⟨["ext", "extender"], extender⟩,
   ⟨["grbase", "graphemebase"], graphemeBase⟩,
   ⟨["grext", "graphemeextend"], graphemeExtend⟩,
   ⟨["grlink", "graphemelink"], graphemeLink⟩,
   ⟨["hex", "hexdigit"], hexDigit⟩,
   ⟨["hyphen"], hyphen⟩,
   ⟨["idcompatmathcontinue"], idCompatMathContinue⟩,
   ⟨["idcompatmathstart"], idCompatMathStart⟩,
   ⟨["idc", "idcontinue"], idContinue⟩,
   ⟨["ideo", "ideographic"], ideographic⟩,
   ⟨["idsb", "idsbinaryoperator"], idsBinary⟩,
   ⟨["ids", "idstart"], idStart⟩,
   ⟨["idst", "idstrinaryoperator"], idsTrinary⟩,
   ⟨["idsu", "idsunaryoperator"], idsUnary⟩,
   ⟨["joinc", "joincontrol"], joinControl⟩,
   ⟨["loe", "logicalorderexception"], logicalOrderException⟩,
   ⟨["lower", "lowercase"], lowercase⟩,
   ⟨["math"], math⟩,
   ⟨["mcm", "modifiercombiningmark"], modifierCombiningMark⟩,
   ⟨["nchar", "noncharactercodepoint"], Version.noncharacters⟩,
   ⟨["oalpha", "otheralphabetic"], otherAlphabetic⟩,
   ⟨["odi", "otherdefaultignorablecodepoint"], otherDefaultIgnorable⟩,
   ⟨["ogrext", "othergraphemeextend"], otherGraphemeExtend⟩,
   ⟨["oidc", "otheridcontinue"], otherIdContinue⟩,
   ⟨["oids", "otheridstart"], otherIdStart⟩,
   ⟨["olower", "otherlowercase"], otherLowercase⟩,
   ⟨["omath", "othermath"], otherMath⟩,
   ⟨["oupper", "otheruppercase"], otherUppercase⟩,
   ⟨["patsyn", "patternsyntax"], patternSyntax⟩,
   ⟨["patws", "patternwhitespace"], patternWhiteSpace⟩,
   ⟨["pcm", "prependedconcatenationmark"], prependedConcatenationMark⟩,
   ⟨["qmark", "quotationmark"], quotationMark⟩,
   ⟨["radical"], radical⟩,
   ⟨["ri", "regionalindicator"], regionalIndicator⟩,
   ⟨["sterm", "sentenceterminal"], sentenceTerminal⟩,
   ⟨["sd", "softdotted"], softDotted⟩,
   ⟨["term", "terminalpunctuation"], terminalPunctuation⟩,
   ⟨["uideo", "unifiedideograph"], unifiedIdeograph⟩,
   ⟨["upper", "uppercase"], uppercase⟩,
   ⟨["vs", "variationselector"], variationSelector⟩,
   ⟨["wspace", "whitespace", "space"], whiteSpace⟩,
   ⟨["xidc", "xidcontinue"], xidContinue⟩,
   ⟨["xids", "xidstart"], xidStart⟩]

/-- The characters of a general category or of a group of them.  Three other
    sets have names among the categories: all characters, those that are
    assigned, and ASCII. -/
def category? (name : String) : Option CharSet :=
  match name with
  | "any" => some .all
  | "assigned" => some Category.unassigned.members.compl
  | "ascii" => some (.range '\x00' '\x7f')
  | name => (Category.ofName? name).map Category.unionOf

/-- The characters of a script. -/
def script? (name : String) : Option CharSet :=
  (Script.ofName? name).map Script.members

/-- The set that a name alone stands for: a property that characters have or
    have not, a general category, or a script. -/
def named? (name : List Char) : Option CharSet :=
  let name := looseName name
  (Named.find? properties name).or ((category? name).or (script? name))

/-- The characters for which a property has a value. -/
def valued? (property value : List Char) : Option CharSet :=
  let value := looseName value
  match looseName property with
  | "gc" | "generalcategory" => category? value
  | "sc" | "script" => script? value
  | "scx" | "scriptextensions" => (Script.ofName? value).map Script.extensions
  | "age" => Version.membersOf? value
  | "gcb" | "graphemeclusterbreak" => Named.find? Grapheme.roles value
  | "wb" | "wordbreak" => Named.find? Word.roles value
  | "sb" | "sentencebreak" => Named.find? Sentence.roles value
  | _ => none

end Worksheet.Unicode
