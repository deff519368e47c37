import OlapQuery.Json.Number
import OlapQuery.Time.Instant
import OlapQuery.Unicode.CodeSet

-- The values of TOML that are written without quotes or brackets: booleans, whole numbers,
-- floats, dates and times.

namespace OlapQuery.Toml

open Time (takeDigits takeChar)

-- Digits with single underscores between them, without the underscores. `afterDigit` says
-- whether an underscore, or the end, may come next.
def digitRun (isDigit : Char → Bool) (afterDigit : Bool) : List Char → Option (List Char)
  | [] => if afterDigit then some [] else none
  | c :: rest =>
      if isDigit c then (digitRun isDigit true rest).map (c :: ·)
      else if c == '_' && afterDigit then digitRun isDigit false rest
      else none

def digits? (cs : List Char) : Option (List Char) :=
  digitRun Char.isDigit false cs

def wholeDigits? (cs : List Char) : Option (List Char) := do
  let digits ← digits? cs
  match digits with
  | '0' :: _ :: _ => none
  | digits => some digits

def splitSign : List Char → Bool × List Char
  | '-' :: rest => (true,rest)
  | '+' :: rest => (false,rest)
  | rest => (false,rest)

-- Whole numbers must fit in 128 bits, signed or not. Who reads the document decides which of
-- them are too large.
def wholeNumber? (n : Int) : Option Json :=
  if Word.minInt128 ≤ n && n ≤ Word.max128 then some (.int n) else none

def inBase? (base : Nat) (cs : List Char) : Option Json := do
  let isDigit (c : Char) : Bool := match Text.hexValue? c with
    | some digit => digit < base
    | none => false
  let digits ← digitRun isDigit false cs
  wholeNumber? (digits.foldl (fun n c => base * n + (Text.hexValue? c).getD 0) 0 : Nat)

def integer? (cs : List Char) : Option Json :=
  match cs with
  | '0' :: 'x' :: rest => inBase? 16 rest
  | '0' :: 'o' :: rest => inBase? 8 rest
  | '0' :: 'b' :: rest => inBase? 2 rest
  | cs => do
      let (negative,rest) := splitSign cs
      let magnitude := Decimal.natOfDigits (← wholeDigits? rest)
      wholeNumber? (if negative then -(magnitude : Int) else magnitude)

def isExponentMark (c : Char) : Bool :=
  c == 'e' || c == 'E'

def fraction? (cs : List Char) : Option (List Char) :=
  match cs with
  | [] => some []
  | '.' :: rest => (digits? rest).map ('.' :: ·)
  | _ => none

def exponent? (cs : List Char) : Option (List Char) :=
  match cs with
  | [] => some []
  | _ :: rest =>
      let (negative,digits) := splitSign rest
      (digits? digits).map fun digits => 'e' :: (if negative then '-' :: digits else digits)

-- A float has a fraction or an exponent. One that is too large is refused, unless it is written
-- as infinity.
def float? (cs : List Char) : Option Json := do
  let (negative,rest) := splitSign cs
  let signed (x : Float) : Json := .float (if negative then -x else x)
  match String.ofList rest with
  | "inf" => some (signed (1.0 / 0.0))
  | "nan" => some (signed (0.0 / 0.0))
  | _ =>
      let mantissa := rest.takeWhile (fun c => !isExponentMark c)
      let whole ← wholeDigits? (mantissa.takeWhile (· != '.'))
      let fraction ← fraction? (mantissa.dropWhile (· != '.'))
      let exponent ← exponent? (rest.dropWhile (fun c => !isExponentMark c))
      let x ← Decimal.readFloat (String.ofList (whole ++ fraction ++ exponent))
      if x.isInf || (fraction.isEmpty && exponent.isEmpty) then none else some (signed x)

def takeDate (cs : List Char) : Option (String × List Char) := do
  let (year,cs) ← takeDigits 4 cs
  let (month,cs) ← takeDigits 2 (← takeChar (· == '-') cs)
  let (day,cs) ← takeDigits 2 (← takeChar (· == '-') cs)
  let date : Time.Date := { year,month,day }
  if date.isValid then some (Time.dateText date,cs) else none

-- The fraction of a second, to nine digits and without zeros at its end; a fraction of nothing
-- but zeros is left out.
def takeFraction (cs : List Char) : Option (String × List Char) :=
  match cs with
  | '.' :: rest =>
      let digits := rest.takeWhile Char.isDigit
      let kept := ((digits.take 9).reverse.dropWhile (· == '0')).reverse
      if digits.isEmpty then none
      else some (String.ofList (if kept.isEmpty then [] else '.' :: kept),
        rest.dropWhile Char.isDigit)
  | cs => some ("",cs)

def takeSeconds (cs : List Char) : Option (String × List Char) :=
  match cs with
  | ':' :: rest => do
      let (second,cs) ← takeDigits 2 rest
      let (fraction,cs) ← takeFraction cs
      if second ≤ 60 then some (":" ++ Time.padLeft 2 second ++ fraction,cs) else none
  | cs => some (":00",cs)

def takeTime (cs : List Char) : Option (String × List Char) := do
  let (hour,cs) ← takeDigits 2 cs
  let (minute,cs) ← takeDigits 2 (← takeChar (· == ':') cs)
  let (seconds,cs) ← takeSeconds cs
  if hour < 24 && minute < 60 then
    some (Time.padLeft 2 hour ++ ":" ++ Time.padLeft 2 minute ++ seconds,cs)
  else none

def offset? (cs : List Char) : Option String :=
  match cs with
  | [] => some ""
  | [c] => if c == 'Z' || c == 'z' then some "Z" else none
  | sign :: rest => do
      let (hour,cs) ← takeDigits 2 rest
      let (minute,cs) ← takeDigits 2 (← takeChar (· == ':') cs)
      let mark := if sign == '-' && hour + minute != 0 then "-" else "+"
      if cs.isEmpty && (sign == '+' || sign == '-') && hour < 24 && minute < 60 then
        some (mark ++ Time.padLeft 2 hour ++ ":" ++ Time.padLeft 2 minute)
      else none

def dateTime? (cs : List Char) : Option String :=
  match takeDate cs with
  | none => do
      let (time,rest) ← takeTime cs
      if rest.isEmpty then some time else none
  | some (date,[]) => some date
  | some (date,mark :: rest) => do
      let (time,rest) ← takeTime rest
      let offset ← offset? rest
      if mark == 'T' || mark == 't' || mark == ' ' then some (date ++ "T" ++ time ++ offset)
      else none

-- Dates and times are an object with this one member, since JSON has none.
def dateTimeMember : String := "$__toml_private_datetime"

def scalar? (cs : List Char) : Option Json :=
  match String.ofList cs with
  | "true" => some (.bool true)
  | "false" => some (.bool false)
  | _ =>
      match integer? cs,float? cs with
      | some whole,_ => some whole
      | none,some number => some number
      | none,none => (dateTime? cs).map fun text => .obj [(dateTimeMember,.str text)]

end OlapQuery.Toml
