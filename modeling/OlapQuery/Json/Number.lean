import OlapQuery.Decimal.Reader
import OlapQuery.Json.Basic

-- The numbers of JSON text. Whole numbers of the 64-bit ranges are kept exactly; any other
-- number is read from the leading digits that fit in 64 bits, scaled by one power of ten.

namespace OlapQuery.Json

-- Digits that still fit in a word, and how many were taken.
def leadingDigits (start : Nat) : List Char → Nat × Nat
  | [] => (start,0)
  | c :: rest =>
      let next := 10 * start + Decimal.digitValue c
      if next ≤ Word.max64 then
        let (value,taken) := leadingDigits next rest
        (value,taken + 1)
      else (start,0)

-- Scales by a power of ten. Too large a result is refused, too small a one becomes zero; three
-- rounds of division bring every word to zero.
def scaled : Nat → Float → Int → Option Float
  | 0,_,_ => some 0.0
  | rounds + 1,x,exponent =>
      if exponent.natAbs ≤ 308 then
        let power := Float.ofScientific 1 false exponent.natAbs
        if 0 ≤ exponent then
          let product := x * power
          if product.isInf then none else some product
        else some (x / power)
      else if x == 0.0 then some x
      else if 0 ≤ exponent then none
      else scaled rounds (x / 1e308) (exponent + 308)

structure NumberText where
  negative : Bool
  whole : List Char
  fraction : Option (List Char)
  exponent : Option Int

def readParts (cs : List Char) : Option NumberText := do
  let (negative,cs) := match cs with
    | '-' :: rest => (true,rest)
    | rest => (false,rest)
  let whole := cs.takeWhile Char.isDigit
  if whole.isEmpty || (whole.length > 1 && whole.head? == some '0') then none
  let (fraction,tail) ← match cs.dropWhile Char.isDigit with
    | '.' :: rest =>
        let digits := rest.takeWhile Char.isDigit
        if digits.isEmpty then none else some (some digits,rest.dropWhile Char.isDigit)
    | rest => some (none,rest)
  let exponent ← if tail.isEmpty then some none else (Decimal.readExponent tail).map some
  some { negative,whole,fraction,exponent }

def NumberText.float? (n : NumberText) : Option Float :=
  let (head,taken) := leadingDigits 0 n.whole
  let dropped := n.whole.length - taken
  let (digits,places) :=
    if dropped = 0 then leadingDigits head (n.fraction.getD []) else (head,0)
  let exponent : Int := n.exponent.getD 0 + (dropped : Int) - (places : Int)
  (scaled 4 digits.toUInt64.toFloat exponent).map fun x => if n.negative then -x else x

def ofNumberText (cs : List Char) : Option Json := do
  let n ← readParts cs
  let magnitude := Decimal.natOfDigits n.whole
  if n.fraction.isSome || n.exponent.isSome then n.float?.map .float
  else if n.negative then
    if 0 < magnitude && -(magnitude : Int) ≥ Word.minInt64 then some (.int (-(magnitude : Int)))
    else n.float?.map .float
  else if magnitude ≤ Word.max64 then some (.int magnitude)
  else n.float?.map .float

end OlapQuery.Json
