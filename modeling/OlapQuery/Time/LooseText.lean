import OlapQuery.Text.Letters
import OlapQuery.Time.Instant

-- Timestamps as people write them. Numbers may be shorter than their places and blanks may stand
-- between the parts; a year with a sign may be of any length. The offset may be the word `UTC`,
-- and any colons and blanks, or none, part its hours from its minutes.

namespace OlapQuery.Time

def skipBlanks (cs : List Char) : List Char :=
  cs.dropWhile Text.isBlank

def takeNumber (width : Nat) (cs : List Char) : Option (Nat × List Char) :=
  let digits := (cs.takeWhile Char.isDigit).take width
  if digits.isEmpty then none else some (Decimal.natOfDigits digits,cs.drop digits.length)

def takeYear (cs : List Char) : Option (Int × List Char) :=
  match cs with
  | '-' :: rest => (takeNumber rest.length rest).map fun (year,cs) => (-(year : Int),cs)
  | '+' :: rest => (takeNumber rest.length rest).map fun (year,cs) => ((year : Int),cs)
  | cs => (takeNumber 4 cs).map fun (year,cs) => ((year : Int),cs)

def takeNext (mark : Char) (cs : List Char) : Option (Nat × List Char) := do
  takeNumber 2 (skipBlanks (← takeChar (· == mark) (skipBlanks cs)))

def isOffsetMark (c : Char) : Bool :=
  c == ':' || Text.isBlank c

def takeLooseOffset (cs : List Char) : Option (Int × List Char) :=
  match cs with
  | 'Z' :: rest => some (0,rest)
  | 'z' :: rest => some (0,rest)
  | sign :: rest =>
      let minus := sign == '-' || sign.toNat == 0x2212
      if (cs.take 3).map Char.toUpper == "UTC".toList then some (0,cs.drop 3)
      else if !minus && sign != '+' then none
      else do
        let (hours,rest) ← takeDigits 2 rest
        let (minutes,rest) ← takeDigits 2 (rest.dropWhile isOffsetMark)
        if hours > 23 || minutes > 59 then none
        let offset : Int := (hours * 3600 + minutes * 60 : Nat)
        some (if minus then -offset else offset,rest)
  | [] => none

def Instant.parseLoose? (text : String) : Option Instant := do
  let (year,cs) ← takeYear (skipBlanks text.toList)
  let (month,cs) ← takeNext '-' cs
  let (day,cs) ← takeNext '-' cs
  let (hour,cs) ← takeNumber 2 (skipBlanks (← takeChar isDateTimeMark cs))
  let (minute,cs) ← takeNext ':' cs
  let (second,cs) ← takeNext ':' cs
  let (nanos,cs) ← takeFraction cs
  let (offset,cs) ← takeLooseOffset (skipBlanks cs)
  if (skipBlanks cs).isEmpty then
    Instant.ofShown? { year,month,day } hour minute second nanos offset
  else none

end OlapQuery.Time
