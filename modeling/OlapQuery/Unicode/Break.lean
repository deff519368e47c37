import OlapQuery.Unicode.Derived
import OlapQuery.Unicode.Script

-- Where text may be divided: the part that each character plays at the bounds of clusters, words
-- and sentences. The parts go by their names without case, blanks, dashes and underscores.

namespace OlapQuery.Unicode

def single (code : Nat) : CodeSet := [(code,code)]

def carriageReturn : CodeSet := single 0x0D
def lineFeed : CodeSet := single 0x0A
def joiner : CodeSet := single 0x200D
def joiners : CodeSet := [(0x200C,0x200D)]

-- Tags are formats that extend the character before them.
def tags : CodeSet := [(0xE0020,0xE007F)]

def scriptCodes (name : String) : CodeSet :=
  match scripts.find? (fun script => script.names.contains name) with
  | some script => .ofText script.codes
  | none => []

def openSyllables : CodeSet :=
  (List.range 399).map fun i => (0xAC00 + 28 * i,0xAC00 + 28 * i)

def prepended : CodeSet :=
  .union prependedConcatenationMark
    (.ofText "D4E 111C2-111C3 1193F 11941 11A3A 11A84-11A89 11D46 11F02")

-- Spacing marks that do not join the character before them.
def detachedMarks : CodeSet :=
  .ofText "102B-102C 1038 1062-1064 1067-106D 1083 1087-108C 108F 109A-109C 1A61 1A63-1A64 AA7B AA7D
    11720-11721"

def graphemeBreak? (name : String) : Option CodeSet :=
  match name with
  | "cr" => some carriageReturn
  | "lf" => some lineFeed
  | "zwj" => some joiner
  | "regionalindicator" | "ri" => some regionalIndicator
  | "extend" | "ex" => some (graphemeExtend.union emojiModifier)
  | "control" | "cn" =>
      some (.without
        (.unions [
          codesOf [.lineSeparator,.paragraphSeparator,.control,.format],
          CodeSet.inter lastCode unassigned defaultIgnorable])
        (.unions [carriageReturn,lineFeed,joiners,tags,prependedConcatenationMark]))
  | "prepend" | "pp" => some prepended
  | "spacingmark" | "sm" =>
      some (.union (single 0xE33) (.union (single 0xEB3)
        (Category.spacingMark.codes.without (graphemeExtend.union detachedMarks))))
  | "l" => some [(0x1100,0x115F),(0xA960,0xA97C)]
  | "v" => some [(0x1160,0x11A7),(0xD7B0,0xD7C6),(0x16D63,0x16D63),(0x16D67,0x16D6A)]
  | "t" => some [(0x11A8,0x11FF),(0xD7CB,0xD7FB)]
  | "lv" => some openSyllables
  | "lvt" => some (.without [(0xAC00,0xD7A3)] openSyllables)
  | _ => none

def wordExtend : CodeSet :=
  .without (.unions [graphemeExtend,Category.spacingMark.codes,emojiModifier]) joiner

def katakanaLetters : CodeSet :=
  (scriptCodes "katakana").union (.ofText "3031-3035 309B-309C 30A0 30FC FF70")

def hebrewLetters : CodeSet :=
  CodeSet.inter lastCode (scriptCodes "hebrew") Category.otherLetter.codes

def unspaced : CodeSet :=
  .ofText "E01-E3A E40-E4E E81-E82 E84 E86-E8A E8C-EA3 EA5 EA7-EBD EC0-EC4 EC6 EC8-ECE EDC-EDF 1000-103F
    1050-108F 109A-109F 1780-17D3 17D7 17DC-17DD 1950-196D 1970-1974 1980-19AB 19B0-19C9 19DA
    19DE-19DF 1A20-1A5E 1A60-1A7C 1AA0-1AAD A9E0-A9EF A9FA-A9FE AA60-AAC2 AADB-AADF 11700-1171A
    1171D-1172B 1173A-1173B 1173F-11746"

-- Signs that are read as letters inside words.
def letterSigns : CodeSet :=
  .ofText "2C2-2C5 2D2-2D7 2DE-2DF 2E5-2EB 2ED 2EF-2FF 55A-55C 55E 58A 5F3 A708-A716 A720-A721 A789-A78A
    AB5B"

def numerals : CodeSet :=
  Category.decimalNumber.codes.union [(0x66B,0x66C)]

def wordBreak? (name : String) : Option CodeSet :=
  match name with
  | "cr" => some carriageReturn
  | "lf" => some lineFeed
  | "newline" | "nl" => some (.ofText "B-C 85 2028-2029")
  | "zwj" => some joiner
  | "regionalindicator" | "ri" => some regionalIndicator
  | "extend" => some wordExtend
  | "format" | "fo" =>
      some (Category.format.codes.without ((CodeSet.ofText "200B-200D").union tags))
  | "katakana" | "ka" => some katakanaLetters
  | "hebrewletter" | "hl" => some hebrewLetters
  | "singlequote" | "sq" => some (single 0x27)
  | "doublequote" | "dq" => some (single 0x22)
  | "midnumlet" | "mb" => some (.ofText "2E 2018-2019 2024 FE52 FF07 FF0E")
  | "midletter" | "ml" => some (.ofText "3A B7 387 55F 5F4 2027 FE13 FE55 FF1A")
  | "midnum" | "mn" =>
      some (.ofText "2C 3B 37E 589 60C-60D 66C 7F8 2044 FE10 FE14 FE50 FE54 FF0C FF1B")
  | "numeric" | "nu" => some (numerals.without (single 0x66C))
  | "extendnumlet" | "ex" => some (Category.connectorPunctuation.codes.union (single 0x202F))
  | "wsegspace" => some (Category.spaceSeparator.codes.without (.ofText "A0 2007 202F"))
  | "aletter" | "le" =>
      some (.without (alphabetic.union letterSigns)
        (.unions [
          ideographic,katakanaLetters,unspaced,scriptCodes "hiragana",wordExtend,hebrewLetters]))
  | _ => none

def sentenceExtend : CodeSet :=
  .unions [graphemeExtend,Category.spacingMark.codes,joiner]

def sentenceBlanks : CodeSet :=
  whiteSpace.without (.ofText "A D 85 2028-2029")

def smallSentenceLetters : CodeSet :=
  lowercase.without (graphemeExtend.union [(0x10D0,0x10FA),(0x10FD,0x10FF)])

def capitalSentenceLetters : CodeSet :=
  .without (uppercase.union Category.titlecaseLetter.codes) [(0x1C90,0x1CBA),(0x1CBD,0x1CBF)]

-- Signs that may end a sentence, but also stand in abbreviations and numbers.
def fullStops : CodeSet := .ofText "2E 2024 FE52 FF0E"

def sentenceBreak? (name : String) : Option CodeSet :=
  match name with
  | "cr" => some carriageReturn
  | "lf" => some lineFeed
  | "sep" | "se" => some (.ofText "85 2028-2029")
  | "extend" | "ex" => some sentenceExtend
  | "format" | "fo" => some (Category.format.codes.without (joiners.union tags))
  | "sp" => some sentenceBlanks
  | "lower" | "lo" => some smallSentenceLetters
  | "upper" | "up" => some capitalSentenceLetters
  | "oletter" | "le" =>
      some (.without (alphabetic.union (single 0x5F3))
        (.unions [smallSentenceLetters,capitalSentenceLetters,sentenceExtend,sentenceBlanks]))
  | "numeric" | "nu" => some numerals
  | "aterm" | "at" => some fullStops
  | "scontinue" | "sc" =>
      some (.ofText "2C-2D 3A-3B 37E 55D 60C-60D 7F8 1802 1808 2013-2014 3001 FE10-FE11 FE13-FE14
        FE31-FE32 FE50-FE51 FE54-FE55 FE58 FE63 FF0C-FF0D FF1A-FF1B FF64")
  | "sterm" | "st" => some (sentenceTerminal.without fullStops)
  | "close" | "cl" =>
      some (.without
        (.unions [
          codesOf [.openPunctuation,.closePunctuation,.initialPunctuation,.finalPunctuation],
          .ofText "22 27 275B-2760 2E00-2E01 2E06-2E08 2E0B 1F676-1F678"])
        (.unions [fullStops,sentenceTerminal]))
  | _ => none

end OlapQuery.Unicode
