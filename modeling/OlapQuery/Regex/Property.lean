import OlapQuery.Unicode.Age
import OlapQuery.Unicode.Break
import OlapQuery.Unicode.Derived
import OlapQuery.Unicode.Script

-- The classes of characters that a pattern names by a property. Names count without case, blanks,
-- dashes and underscores. Patterns know the characters of the version before the latest.

namespace OlapQuery.Regex

open Unicode

def settled (codes : CodeSet) : CodeSet :=
  codes.without latest

-- Nor does an `is` at the front of a name count.
def normalizeName (name : List Char) : String :=
  let isPrefixed := (name.take 2).map Char.toLower == ['i','s']
  let body := if isPrefixed then name.drop 2 else name
  let kept := (body.filter (fun c => c.toNat < 0x80 && c != ' ' && c != '_' && c != '-')).map Char.toLower
  if isPrefixed && kept == ['c'] then "isc" else String.ofList kept

def unassignedBefore : CodeSet :=
  unassigned.union latest

def categories? (name : String) : Option (List Category) :=
  match name with
  | "control" | "cc" | "cntrl" => some [.control]
  | "format" | "cf" => some [.format]
  | "privateuse" | "co" => some [.privateUse]
  | "letter" | "l" =>
      some [.lowercaseLetter,.uppercaseLetter,.titlecaseLetter,.modifierLetter,.otherLetter]
  | "casedletter" | "lc" => some [.lowercaseLetter,.uppercaseLetter,.titlecaseLetter]
  | "lowercaseletter" | "ll" => some [.lowercaseLetter]
  | "modifierletter" | "lm" => some [.modifierLetter]
  | "otherletter" | "lo" => some [.otherLetter]
  | "titlecaseletter" | "lt" => some [.titlecaseLetter]
  | "uppercaseletter" | "lu" => some [.uppercaseLetter]
  | "mark" | "m" | "combiningmark" => some [.nonspacingMark,.spacingMark,.enclosingMark]
  | "spacingmark" | "mc" => some [.spacingMark]
  | "enclosingmark" | "me" => some [.enclosingMark]
  | "nonspacingmark" | "mn" => some [.nonspacingMark]
  | "number" | "n" => some [.decimalNumber,.letterNumber,.otherNumber]
  | "decimalnumber" | "nd" | "digit" => some [.decimalNumber]
  | "letternumber" | "nl" => some [.letterNumber]
  | "othernumber" | "no" => some [.otherNumber]
  | "punctuation" | "p" | "punct" =>
      some [.connectorPunctuation,.dashPunctuation,.closePunctuation,.finalPunctuation,
        .initialPunctuation,.otherPunctuation,.openPunctuation]
  | "connectorpunctuation" | "pc" => some [.connectorPunctuation]
  | "dashpunctuation" | "pd" => some [.dashPunctuation]
  | "closepunctuation" | "pe" => some [.closePunctuation]
  | "finalpunctuation" | "pf" => some [.finalPunctuation]
  | "initialpunctuation" | "pi" => some [.initialPunctuation]
  | "otherpunctuation" | "po" => some [.otherPunctuation]
  | "openpunctuation" | "ps" => some [.openPunctuation]
  | "symbol" | "s" => some [.currencySymbol,.modifierSymbol,.mathSymbol,.otherSymbol]
  | "currencysymbol" | "sc" => some [.currencySymbol]
  | "modifiersymbol" | "sk" => some [.modifierSymbol]
  | "mathsymbol" | "sm" => some [.mathSymbol]
  | "othersymbol" | "so" => some [.otherSymbol]
  | "separator" | "z" => some [.lineSeparator,.paragraphSeparator,.spaceSeparator]
  | "lineseparator" | "zl" => some [.lineSeparator]
  | "paragraphseparator" | "zp" => some [.paragraphSeparator]
  | "spaceseparator" | "zs" => some [.spaceSeparator]
  | _ => none

def category? (name : String) : Option CodeSet :=
  match name with
  | "any" => some [(0,lastCode)]
  | "ascii" => some [(0,0x7F)]
  | "assigned" => some (.complement lastCode unassignedBefore)
  | "unassigned" | "cn" => some unassignedBefore
  | "other" | "c" =>
      some (.unions [settled (codesOf [.control,.format,.privateUse]),unassignedBefore])
  | name => (categories? name).map fun categories => settled (codesOf categories)

def isCommon (name : String) : Bool := name == "common" || name == "zyyy"

def isInherited (name : String) : Bool := name == "inherited" || name == "zinh" || name == "qaai"

def script? (name : String) : Option CodeSet :=
  if isCommon name then some (settled (.ofText commonCodes))
  else if isInherited name then some (settled (.ofText inheritedCodes))
  else
    (scripts.find? (fun script => script.names.contains name)).map fun script =>
      .ofText script.codes

def scriptExtension? (name : String) : Option CodeSet :=
  if isCommon name then some (settled ((CodeSet.ofText commonCodes).without narrowed))
  else if isInherited name then some (settled ((CodeSet.ofText inheritedCodes).without narrowed))
  else
    (scripts.find? (fun script => script.names.contains name)).map fun script =>
      (CodeSet.ofText script.codes).union (.ofText script.shared)

-- A version is written `6.1` or `V6_1`.
def isVersion (name version : String) : Bool :=
  name == version || name == "v" ++ String.ofList (version.toList.filter (· != '.'))

def age? (name : String) : Option CodeSet :=
  if additions.any (fun addition => isVersion name addition.1) then
    let earlier := additions.takeWhile (fun addition => !isVersion name addition.1)
    let last := additions.filter (fun addition => isVersion name addition.1)
    some (.unions ((earlier ++ last).map fun addition => .ofText addition.2))
  else none

def flag? (name : String) : Option CodeSet :=
  match name with
  | "asciihexdigit" | "ahex" => some asciiHexDigit
  | "alphabetic" | "alpha" => some (settled alphabetic)
  | "bidicontrol" | "bidic" => some bidiControl
  | "bidimirrored" | "bidim" => some (settled bidiMirrored)
  | "caseignorable" | "ci" => some (settled caseIgnorable)
  | "cased" => some (settled cased)
  | "changeswhencasefolded" | "cwcf" => some (settled changesWhenFolded)
  | "changeswhencasemapped" | "cwcm" => some (settled changesWhenMapped)
  | "changeswhenlowercased" | "cwl" => some (settled changesWhenLowered)
  | "changeswhentitlecased" | "cwt" => some (settled changesWhenTitled)
  | "changeswhenuppercased" | "cwu" => some (settled changesWhenRaised)
  | "dash" => some (settled dash)
  | "defaultignorablecodepoint" | "di" => some defaultIgnorable
  | "deprecated" | "dep" => some deprecated
  | "diacritic" | "dia" => some (settled diacritic)
  | "emoji" => some (settled emoji)
  | "emojicomponent" | "ecomp" => some emojiComponent
  | "emojimodifier" | "emod" => some emojiModifier
  | "emojimodifierbase" | "ebase" => some (settled emojiModifierBase)
  | "emojipresentation" | "epres" => some (settled emojiPresentation)
  | "extendedpictographic" | "extpict" => some extendedPictographic
  | "extender" | "ext" => some (settled extender)
  | "graphemebase" | "grbase" => some (settled graphemeBase)
  | "graphemeextend" | "grext" => some (settled graphemeExtend)
  | "graphemelink" | "grlink" => some (settled graphemeLink)
  | "hexdigit" | "hex" => some hexDigit
  | "hyphen" => some hyphen
  | "idcompatmathcontinue" => some idCompatMathContinue
  | "idcompatmathstart" => some idCompatMathStart
  | "idcontinue" | "idc" => some (settled idContinue)
  | "idsbinaryoperator" | "idsb" => some idsBinaryOperator
  | "idstrinaryoperator" | "idst" => some idsTrinaryOperator
  | "idsunaryoperator" | "idsu" => some idsUnaryOperator
  | "idstart" | "ids" => some (settled idStart)
  | "ideographic" | "ideo" => some (settled ideographic)
  | "joincontrol" | "joinc" => some joinControl
  | "logicalorderexception" | "loe" => some logicalOrderException
  | "lowercase" | "lower" => some (settled lowercase)
  | "math" => some (settled math)
  | "modifiercombiningmark" | "mcm" => some modifierCombiningMark
  | "noncharactercodepoint" | "nchar" => some noncharacter
  | "otheralphabetic" | "oalpha" =>
      some (settled (.unions [
        otherAlphabetic,otherUppercase.without [(0x2160,0x216F)],[(0x345,0x345),(0x24D0,0x24E9)]]))
  | "otherdefaultignorablecodepoint" | "odi" => some otherDefaultIgnorable
  | "othergraphemeextend" | "ogrext" => some (settled otherGraphemeExtend)
  | "otheridcontinue" | "oidc" => some otherIdContinue
  | "otheridstart" | "oids" => some otherIdStart
  | "otherlowercase" | "olower" => some (settled otherLowercase)
  | "othermath" | "omath" => some (settled otherMath)
  | "otheruppercase" | "oupper" => some (settled otherUppercase)
  | "patternsyntax" | "patsyn" => some patternSyntax
  | "patternwhitespace" | "patws" => some patternWhiteSpace
  | "prependedconcatenationmark" | "pcm" => some prependedConcatenationMark
  | "quotationmark" | "qmark" => some quotationMark
  | "radical" => some radical
  | "regionalindicator" | "ri" => some regionalIndicator
  | "sentenceterminal" | "sterm" => some (settled sentenceTerminal)
  | "softdotted" | "sd" => some (settled softDotted)
  | "terminalpunctuation" | "term" => some (settled terminalPunctuation)
  | "unifiedideograph" | "uideo" => some (settled unifiedIdeograph)
  | "uppercase" | "upper" => some (settled uppercase)
  | "variationselector" | "vs" => some variationSelector
  | "whitespace" | "wspace" | "space" => some whiteSpace
  | "xidcontinue" | "xidc" => some (settled xidContinue)
  | "xidstart" | "xids" => some (settled xidStart)
  | _ => none

def property? (name : String) : Option CodeSet :=
  flag? name <|> category? name <|> script? name

def propertyValue? (property value : String) : Option CodeSet :=
  match property with
  | "generalcategory" | "gc" => category? value
  | "script" | "sc" => script? value
  | "scriptextensions" | "scx" => scriptExtension? value
  | "age" => age? value
  | "graphemeclusterbreak" | "gcb" => (graphemeBreak? value).map settled
  | "wordbreak" | "wb" => (wordBreak? value).map settled
  | "sentencebreak" | "sb" => (sentenceBreak? value).map settled
  | _ => none

def wordCodes : CodeSet :=
  settled (.unions [
    alphabetic,marks,codesOf [.decimalNumber,.connectorPunctuation],joinControl])

def digitCodes : CodeSet :=
  settled Category.decimalNumber.codes

end OlapQuery.Regex
