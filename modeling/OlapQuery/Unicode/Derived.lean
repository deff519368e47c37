import OlapQuery.Unicode.Category
import OlapQuery.Unicode.Listed

-- Properties of characters that follow from their categories and from the listed properties.

namespace OlapQuery.Unicode

def CodeSet.without (a b : CodeSet) : CodeSet :=
  CodeSet.diff lastCode a b

def letters : CodeSet :=
  codesOf [.lowercaseLetter,.uppercaseLetter,.titlecaseLetter,.modifierLetter,.otherLetter]

def marks : CodeSet :=
  codesOf [.nonspacingMark,.spacingMark,.enclosingMark]

def numbers : CodeSet :=
  codesOf [.decimalNumber,.letterNumber,.otherNumber]

def lowercase : CodeSet :=
  Category.lowercaseLetter.codes.union otherLowercase

def uppercase : CodeSet :=
  Category.uppercaseLetter.codes.union otherUppercase

def cased : CodeSet :=
  .unions [lowercase,uppercase,Category.titlecaseLetter.codes]

def caseIgnorable : CodeSet :=
  .unions [
    codesOf [.nonspacingMark,.enclosingMark,.format,.modifierLetter,.modifierSymbol],midLetters]

def alphabetic : CodeSet :=
  .unions [
    cased,codesOf [.modifierLetter,.otherLetter,.letterNumber],otherAlphabetic]

def alphanumeric : CodeSet :=
  alphabetic.union numbers

def graphemeExtend : CodeSet :=
  .unions [codesOf [.nonspacingMark,.enclosingMark],otherGraphemeExtend]

-- Characters with no visible form of their own: controls, formats, blanks, private and unassigned
-- code points, what may be ignored when it is shown, and marks that join the character before
-- them.
def hidden : CodeSet :=
  .without
    (.unions [
      codesOf [.control,.format,.privateUse,.lineSeparator,.paragraphSeparator,.spaceSeparator],
      surrogates,unassigned,defaultIgnorable,graphemeExtend])
    [(0x20,0x20)]

def graphemeBase : CodeSet :=
  .without [(0,lastCode)]
    (.unions [
      codesOf [.control,.format,.privateUse,.lineSeparator,.paragraphSeparator],
      surrogates,unassigned,graphemeExtend])

def math : CodeSet :=
  Category.mathSymbol.codes.union otherMath

def patternSigns : CodeSet :=
  patternSyntax.union patternWhiteSpace

def idStart : CodeSet :=
  .without (.unions [letters,Category.letterNumber.codes,otherIdStart]) patternSigns

def idContinue : CodeSet :=
  .without
    (.unions [
      idStart,
      codesOf [.nonspacingMark,.spacingMark,.decimalNumber,.connectorPunctuation],
      otherIdContinue])
    patternSigns

def xidStart : CodeSet := idStart.without idNotNormalStart

def xidContinue : CodeSet := idContinue.without idNotNormalContinue

def changesWhenLowered : CodeSet :=
  .union (.without (codesOf [.uppercaseLetter,.titlecaseLetter]) notLowered) loweredOther

def changesWhenRaised : CodeSet :=
  .union (.without (codesOf [.lowercaseLetter,.titlecaseLetter]) notRaised) raisedOther

def changesWhenTitled : CodeSet :=
  .union (changesWhenRaised.without raisedNotTitled) titledNotRaised

def changesWhenFolded : CodeSet :=
  .union (changesWhenLowered.without loweredNotFolded) foldedNotLowered

def changesWhenMapped : CodeSet :=
  .unions [changesWhenLowered,changesWhenRaised,changesWhenTitled]

end OlapQuery.Unicode
