import OlapQuery.Decimal.Shortest

-- How a double is written. Magnitudes from 1e-5 up to below 1e16 are written positionally and
-- always with a fraction; others in exponent form. The formats differ only in the sign of a
-- positive exponent and in the texts of the values that are no numbers.

namespace OlapQuery.Decimal

structure Layout where
  exponentPlus : Bool
  notANumber : String
  infinity : String
  minusInfinity : String

-- Inside text: `1e16`, `NaN`, `inf`.
def Layout.text : Layout :=
  { exponentPlus := false,notANumber := "NaN",infinity := "inf",minusInfinity := "-inf" }

-- As a JSON number: `1e+16`. What is not finite has no JSON number and is written `null`.
def Layout.json : Layout :=
  { exponentPlus := true,notANumber := "null",infinity := "null",minusInfinity := "null" }

def zeros (n : Nat) : String :=
  String.ofList (List.replicate n '0')

def Layout.writeDecimal (layout : Layout) (d : Decimal) : String :=
  let digits := toString d.digits
  let point : Int := digits.length + d.exponent
  if 0 ≤ d.exponent ∧ point ≤ 16 then
    digits ++ zeros d.exponent.toNat ++ ".0"
  else if 0 < point ∧ point ≤ 16 then
    (digits.take point.toNat).toString ++ "." ++ (digits.drop point.toNat).toString
  else if -5 < point ∧ point ≤ 0 then
    "0." ++ zeros (-point).toNat ++ digits
  else
    let exponent := point - 1
    let sign := if 0 ≤ exponent then (if layout.exponentPlus then "+" else "") else "-"
    let lead := (digits.take 1).toString
    let rest := (digits.drop 1).toString
    lead ++ (if rest.isEmpty then "" else "." ++ rest) ++ "e" ++ sign ++ toString exponent.natAbs

def isNegative (x : Float) : Bool :=
  x.toBits >>> 63 == 1

def Layout.write (layout : Layout) (x : Float) : String :=
  if x.isNaN then layout.notANumber
  else if x.isInf then (if isNegative x then layout.minusInfinity else layout.infinity)
  else
    let sign := if isNegative x then "-" else ""
    if x == 0.0 then sign ++ "0.0"
    else sign ++ layout.writeDecimal (Binary.ofBits x.toBits).shortest

def whole? (x : Float) : Option Int :=
  let magnitude : Int := x.abs.toUInt64.toNat
  let n := if x < 0.0 then -magnitude else magnitude
  if x.abs < 1e15 && Float.ofInt n == x then some n else none

def numberText (x : Float) : String :=
  match whole? x with
  | some n => toString n
  | none => Layout.text.write x

end OlapQuery.Decimal
