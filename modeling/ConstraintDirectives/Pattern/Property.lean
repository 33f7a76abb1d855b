import ConstraintDirectives.Text.Property
import ConstraintDirectives.Text.SharedScript

namespace ConstraintDirectives.PatternText
open Text

private def propertyNames : List (List String × CodeRanges) :=
  [(["alphabetic", "alpha"], Property.alphabetic),
    (["asciihexdigit", "ahex"], Property.asciiHexDigit),
    (["bidicontrol", "bidic"], Property.bidiControl), (["cased"], Property.cased),
    (["caseignorable", "ci"], Property.caseIgnorable),
    (["changeswhencasefolded", "cwcf"], Property.changesWhenCasefolded),
    (["changeswhencasemapped", "cwcm"], Property.changesWhenCasemapped),
    (["changeswhenlowercased", "cwl"], Property.changesWhenLowercased),
    (["changeswhentitlecased", "cwt"], Property.changesWhenTitlecased),
    (["changeswhenuppercased", "cwu"], Property.changesWhenUppercased), (["dash"], Property.dash),
    (["defaultignorablecodepoint", "di"], Property.defaultIgnorableCodePoint),
    (["deprecated", "dep"], Property.deprecated), (["diacritic", "dia"], Property.diacritic),
    (["emoji"], Property.emoji),
    (["emojicomponent", "ecomp"], Property.emojiComponent),
    (["emojimodifier", "emod"], Property.emojiModifier),
    (["emojimodifierbase", "ebase"], Property.emojiModifierBase),
    (["emojipresentation", "epres"], Property.emojiPresentation),
    (["extendedpictographic", "extpict"], Property.extendedPictographic),
    (["extender", "ext"], Property.extender),
    (["graphemebase", "grbase"], Property.graphemeBase),
    (["graphemeextend", "grext"], Property.graphemeExtend),
    (["hexdigit", "hex"], Property.hexDigit), (["idcontinue", "idc"], Property.idContinue),
    (["idsbinaryoperator", "idsb"], Property.idsBinaryOperator),
    (["idstart", "ids"], Property.idStart),
    (["idstrinaryoperator", "idst"], Property.idsTrinaryOperator),
    (["ideographic", "ideo"], Property.ideographic),
    (["joincontrol", "joinc"], Property.joinControl),
    (["logicalorderexception", "loe"], Property.logicalOrderException),
    (["lowercase", "lower"], Property.lowercase), (["math"], Property.math),
    (["noncharactercodepoint", "nchar"], Property.noncharacterCodePoint),
    (["patternsyntax", "patsyn"], Property.patternSyntax),
    (["patternwhitespace", "patws"], Property.patternWhiteSpace),
    (["quotationmark", "qmark"], Property.quotationMark), (["radical"], Property.radical),
    (["regionalindicator", "ri"], Property.regionalIndicator),
    (["sentenceterminal", "sterm"], Property.sentenceTerminal),
    (["softdotted", "sd"], Property.softDotted),
    (["terminalpunctuation", "term"], Property.terminalPunctuation),
    (["unifiedideograph", "uideo"], Property.unifiedIdeograph),
    (["uppercase", "upper"], Property.uppercase),
    (["variationselector", "vs"], Property.variationSelector),
    (["whitespace", "wspace", "space"], Property.whiteSpace),
    (["xidcontinue", "xidc"], Property.xidContinue), (["xidstart", "xids"], Property.xidStart)]

private def categoryNames : List (List String × CodeRanges) :=
  [(["any"], .all), (["ascii"], [(0, 0x7F)]), (["assigned"], Category.assigned),
    (["other", "c"], Category.other), (["control", "cc", "cntrl"], Category.control),
    (["format", "cf"], Category.format), (["unassigned", "cn"], Category.unassigned),
    (["privateuse", "co"], Category.privateUse), (["letter", "l"], Category.letter),
    (["casedletter", "lc"], Category.casedLetter),
    (["lowercaseletter", "ll"], Category.lowercaseLetter),
    (["modifierletter", "lm"], Category.modifierLetter),
    (["otherletter", "lo"], Category.otherLetter),
    (["titlecaseletter", "lt"], Category.titlecaseLetter),
    (["uppercaseletter", "lu"], Category.uppercaseLetter),
    (["mark", "m", "combiningmark"], Category.mark), (["spacingmark", "mc"], Category.spacingMark),
    (["enclosingmark", "me"], Category.enclosingMark),
    (["nonspacingmark", "mn"], Category.nonspacingMark), (["number", "n"], Category.number),
    (["decimalnumber", "nd", "digit"], Category.decimalNumber),
    (["letternumber", "nl"], Category.letterNumber), (["othernumber", "no"], Category.otherNumber),
    (["punctuation", "p", "punct"], Category.punctuation),
    (["connectorpunctuation", "pc"], Category.connectorPunctuation),
    (["dashpunctuation", "pd"], Category.dashPunctuation),
    (["closepunctuation", "pe"], Category.closePunctuation),
    (["finalpunctuation", "pf"], Category.finalPunctuation),
    (["initialpunctuation", "pi"], Category.initialPunctuation),
    (["otherpunctuation", "po"], Category.otherPunctuation),
    (["openpunctuation", "ps"], Category.openPunctuation), (["symbol", "s"], Category.symbol),
    (["currencysymbol", "sc"], Category.currencySymbol),
    (["modifiersymbol", "sk"], Category.modifierSymbol),
    (["mathsymbol", "sm"], Category.mathSymbol), (["othersymbol", "so"], Category.otherSymbol),
    (["separator", "z"], Category.separator), (["lineseparator", "zl"], Category.lineSeparator),
    (["paragraphseparator", "zp"], Category.paragraphSeparator),
    (["spaceseparator", "zs"], Category.spaceSeparator)]

private def named? (table : List (List String × CodeRanges)) (name : String) : Option CodeRanges :=
  (table.find? (·.1.contains name)).map (·.2)

private def script? (name : String) : Option Script := Script.all.find? (·.names.contains name)

private def plainName (name : List Char) : String :=
  let letters (cs : List Char) : String :=
    String.ofList ((cs.filter fun c => c.toNat < 0x80 && !" -_".toList.contains c).map Char.toLower)
  match name with
  | i :: s :: rest =>
    if i.toLower = 'i' ∧ s.toLower = 's' then
      let plain := letters rest
      -- what begins with `is` is never the category `c`
      if plain = "c" then "isc" else plain
    else letters name
  | name => letters name

private def splitAt? (separator : List Char) : List Char → Option (List Char × List Char)
  | [] => none
  | c :: cs =>
    if separator.isPrefixOf (c :: cs) then some ([], (c :: cs).drop separator.length)
    else (splitAt? separator cs).map fun (before, after) => (c :: before, after)

/-- The characters with a property, by its name alone or as the value of a category or a script. -/
def property? (text : List Char) : Option CodeRanges :=
  match splitAt? ['!', '='] text <|> splitAt? [':'] text <|> splitAt? ['='] text with
  | some (kind, value) =>
    match plainName kind with
    | "gc" | "generalcategory" => named? categoryNames (plainName value)
    | "sc" | "script" => (script? (plainName value)).map (·.members)
    | "scx" | "scriptextensions" => (script? (plainName value)).map (·.writtenWith)
    | _ => none
  | none =>
    let name := plainName text
    named? propertyNames name <|> named? categoryNames name <|> (script? name).map (·.members)

end ConstraintDirectives.PatternText
