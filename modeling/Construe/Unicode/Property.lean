import Construe.Unicode.Age
import Construe.Unicode.Binary
import Construe.Unicode.Script
import Construe.Unicode.Segmentation

/-! # Properties by name

Property names are compared in folded form: letter case, spaces, hyphens and underscores do not
count, nor does a leading `is`. A bare name is a binary property, a general category or a script,
looked for in this order; a name with a value picks the family first. -/
namespace Construe.Unicode.Property

/-- The folded form of a name. A leading `is` is dropped except where it spells `isc`. -/
def normalize (name : String) : String :=
  let lower := name.toList.map Char.toLower
  let (isDropped, body) := match lower with
    | 'i' :: 's' :: rest => (true, rest)
    | all => (false, all)
  let kept := body.filter fun c => c.toNat < 0x80 && c != ' ' && c != '_' && c != '-'
  if isDropped && kept == ['c'] then "isc" else String.ofList kept

def binary? : String → Option CharSet
  | "ahex" | "asciihexdigit" => some Binary.asciiHexDigit
  | "alpha" | "alphabetic" => some Binary.alphabetic
  | "bidic" | "bidicontrol" => some Binary.bidiControl
  | "bidim" | "bidimirrored" => some Binary.bidiMirrored
  | "ci" | "caseignorable" => some Binary.caseIgnorable
  | "cased" => some Binary.cased
  | "cwcf" | "changeswhencasefolded" => some Binary.changesWhenCasefolded
  | "cwcm" | "changeswhencasemapped" => some Binary.changesWhenCasemapped
  | "cwl" | "changeswhenlowercased" => some Binary.changesWhenLowercased
  | "cwt" | "changeswhentitlecased" => some Binary.changesWhenTitlecased
  | "cwu" | "changeswhenuppercased" => some Binary.changesWhenUppercased
  | "dash" => some Binary.dash
  | "di" | "defaultignorablecodepoint" => some Binary.defaultIgnorableCodePoint
  | "dep" | "deprecated" => some Binary.deprecated
  | "dia" | "diacritic" => some Binary.diacritic
  | "emoji" => some Binary.emoji
  | "ecomp" | "emojicomponent" => some Binary.emojiComponent
  | "emod" | "emojimodifier" => some Binary.emojiModifier
  | "ebase" | "emojimodifierbase" => some Binary.emojiModifierBase
  | "epres" | "emojipresentation" => some Binary.emojiPresentation
  | "extpict" | "extendedpictographic" => some Binary.extendedPictographic
  | "ext" | "extender" => some Binary.extender
  | "grbase" | "graphemebase" => some Binary.graphemeBase
  | "grext" | "graphemeextend" => some Binary.graphemeExtend
  | "grlink" | "graphemelink" => some Binary.graphemeLink
  | "hex" | "hexdigit" => some Binary.hexDigit
  | "hyphen" => some Binary.hyphen
  | "idsb" | "idsbinaryoperator" => some Binary.idsBinaryOperator
  | "idst" | "idstrinaryoperator" => some Binary.idsTrinaryOperator
  | "idsu" | "idsunaryoperator" => some Binary.idsUnaryOperator
  | "idcompatmathcontinue" => some Binary.idCompatMathContinue
  | "idcompatmathstart" => some Binary.idCompatMathStart
  | "idc" | "idcontinue" => some Binary.idContinue
  | "ids" | "idstart" => some Binary.idStart
  | "ideo" | "ideographic" => some Binary.ideographic
  | "joinc" | "joincontrol" => some Binary.joinControl
  | "loe" | "logicalorderexception" => some Binary.logicalOrderException
  | "lower" | "lowercase" => some Binary.lowercase
  | "math" => some Binary.math
  | "mcm" | "modifiercombiningmark" => some Binary.modifierCombiningMark
  | "nchar" | "noncharactercodepoint" => some Binary.noncharacterCodePoint
  | "oalpha" | "otheralphabetic" => some Binary.otherAlphabetic
  | "odi" | "otherdefaultignorablecodepoint" => some Binary.otherDefaultIgnorableCodePoint
  | "ogrext" | "othergraphemeextend" => some Binary.otherGraphemeExtend
  | "oidc" | "otheridcontinue" => some Binary.otherIdContinue
  | "oids" | "otheridstart" => some Binary.otherIdStart
  | "olower" | "otherlowercase" => some Binary.otherLowercase
  | "omath" | "othermath" => some Binary.otherMath
  | "oupper" | "otheruppercase" => some Binary.otherUppercase
  | "patsyn" | "patternsyntax" => some Binary.patternSyntax
  | "patws" | "patternwhitespace" => some Binary.patternWhiteSpace
  | "pcm" | "prependedconcatenationmark" => some Binary.prependedConcatenationMark
  | "qmark" | "quotationmark" => some Binary.quotationMark
  | "radical" => some Binary.radical
  | "ri" | "regionalindicator" => some Binary.regionalIndicator
  | "sterm" | "sentenceterminal" => some Binary.sentenceTerminal
  | "sd" | "softdotted" => some Binary.softDotted
  | "term" | "terminalpunctuation" => some Binary.terminalPunctuation
  | "uideo" | "unifiedideograph" => some Binary.unifiedIdeograph
  | "upper" | "uppercase" => some Binary.uppercase
  | "vs" | "variationselector" => some Binary.variationSelector
  | "space" | "wspace" | "whitespace" => some Binary.whiteSpace
  | "xidc" | "xidcontinue" => some Binary.xidContinue
  | "xids" | "xidstart" => some Binary.xidStart
  | _ => none

def category? : String → Option CharSet
  | "any" => some .all
  | "assigned" => some Category.assigned
  | "ascii" => some (.ofRanges [⟨0, 0x7F⟩])
  | "c" | "other" => some Category.other
  | "cc" | "cntrl" | "control" => some Category.control
  | "cf" | "format" => some Category.format
  | "cn" | "unassigned" => some Category.unassigned
  | "co" | "privateuse" => some Category.privateUse
  | "l" | "letter" => some Category.letter
  | "lc" | "casedletter" => some Category.casedLetter
  | "ll" | "lowercaseletter" => some Category.lowercaseLetter
  | "lm" | "modifierletter" => some Category.modifierLetter
  | "lo" | "otherletter" => some Category.otherLetter
  | "lt" | "titlecaseletter" => some Category.titlecaseLetter
  | "lu" | "uppercaseletter" => some Category.uppercaseLetter
  | "m" | "mark" | "combiningmark" => some Category.mark
  | "mc" | "spacingmark" => some Category.spacingMark
  | "me" | "enclosingmark" => some Category.enclosingMark
  | "mn" | "nonspacingmark" => some Category.nonspacingMark
  | "n" | "number" => some Category.number
  | "nd" | "digit" | "decimalnumber" => some Category.decimalNumber
  | "nl" | "letternumber" => some Category.letterNumber
  | "no" | "othernumber" => some Category.otherNumber
  | "p" | "punct" | "punctuation" => some Category.punctuation
  | "pc" | "connectorpunctuation" => some Category.connectorPunctuation
  | "pd" | "dashpunctuation" => some Category.dashPunctuation
  | "pe" | "closepunctuation" => some Category.closePunctuation
  | "pf" | "finalpunctuation" => some Category.finalPunctuation
  | "pi" | "initialpunctuation" => some Category.initialPunctuation
  | "po" | "otherpunctuation" => some Category.otherPunctuation
  | "ps" | "openpunctuation" => some Category.openPunctuation
  | "s" | "symbol" => some Category.symbol
  | "sc" | "currencysymbol" => some Category.currencySymbol
  | "sk" | "modifiersymbol" => some Category.modifierSymbol
  | "sm" | "mathsymbol" => some Category.mathSymbol
  | "so" | "othersymbol" => some Category.otherSymbol
  | "z" | "separator" => some Category.separator
  | "zl" | "lineseparator" => some Category.lineSeparator
  | "zp" | "paragraphseparator" => some Category.paragraphSeparator
  | "zs" | "spaceseparator" => some Category.spaceSeparator
  | _ => none

/-- The set of a bare property name. -/
def named? (name : String) : Option CharSet :=
  let name := normalize name
  binary? name <|> category? name <|> (Script.find? name).map Script.set

/-- The set of a property name with a value. -/
def valued? (name value : String) : Option CharSet :=
  let value := normalize value
  match normalize name with
  | "gc" | "generalcategory" => category? value
  | "sc" | "script" => (Script.find? value).map Script.set
  | "scx" | "scriptextensions" => (Script.find? value).map Script.extended
  | "age" => age? value
  | "gcb" | "graphemeclusterbreak" => BreakClass.find? value BreakClass.grapheme
  | "wb" | "wordbreak" => BreakClass.find? value BreakClass.word
  | "sb" | "sentencebreak" => BreakClass.find? value BreakClass.sentence
  | _ => none

end Construe.Unicode.Property

namespace Construe.Unicode

/-- Decimal digits of all scripts. -/
def digit : CharSet := Category.decimalNumber

/-- White space. -/
def space : CharSet := Binary.whiteSpace

/-- Characters that words are made of: letters, marks, digits, connectors and joiners. -/
def word : CharSet := .unionAll [Binary.alphabetic, Category.mark, Category.decimalNumber,
  Category.connectorPunctuation, Binary.joinControl]

end Construe.Unicode
