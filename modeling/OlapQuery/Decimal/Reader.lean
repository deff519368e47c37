-- Reading a number from text: an optional sign, then `inf`, `infinity` or `nan` in any case,
-- or digits with an optional point among them and an optional exponent. At least one digit is
-- needed before the exponent, and nothing may stand around the number.

namespace OlapQuery.Decimal

def digitValue (c : Char) : Nat :=
  c.toNat - '0'.toNat

def natOfDigits (digits : List Char) : Nat :=
  digits.foldl (fun n c => 10 * n + digitValue c) 0

def roundedQuotient (numerator denominator : Nat) : Nat :=
  let quotient := numerator / denominator
  let twice := 2 * (numerator % denominator)
  if twice < denominator || (twice == denominator && quotient % 2 == 0) then quotient
  else quotient + 1

-- The bits of the double nearest to a positive quotient, as a number: exponent and significand
-- lie side by side, so a significand that rounds up to the next power of two is right as it is.
def nearestBits (numerator denominator : Nat) : Nat :=
  let scaledTo (exponent : Int) : Nat × Nat :=
    (numerator * Nat.pow 2 (-exponent).toNat,denominator * Nat.pow 2 exponent.toNat)
  let estimate : Int := (numerator.log2 : Int) - (denominator.log2 : Int) - 52
  let (n,d) := scaledTo estimate
  let normal := if n / d < 4503599627370496 then estimate - 1 else estimate
  let exponent := if normal < -1074 then -1074 else normal
  let (n,d) := scaledTo exponent
  (exponent + 1074).toNat * 4503599627370496 + roundedQuotient n d

def infinityBits : Nat := 0x7FF0000000000000

-- `digits * 10 ^ exponent` rounded to the nearest double. Exponents that can only overflow or
-- vanish are settled without building the power.
def nearestFloat (digits : Nat) (exponent : Int) : Float :=
  if digits = 0 then 0.0
  else
    let point : Int := (toString digits).length + exponent
    if point > 310 then 1.0 / 0.0
    else if point < -330 then 0.0
    else
      let bits := nearestBits (digits * Nat.pow 10 exponent.toNat) (Nat.pow 10 (-exponent).toNat)
      if bits ≥ infinityBits then 1.0 / 0.0 else Float.ofBits bits.toUInt64

def readExponent : List Char → Option Int
  | [] => some 0
  | mark :: rest =>
      if mark == 'e' || mark == 'E' then
        let (negative,digits) := match rest with
          | '-' :: more => (true,more)
          | '+' :: more => (false,more)
          | more => (false,more)
        if digits.isEmpty || !digits.all Char.isDigit then none
        else some (if negative then -(natOfDigits digits : Int) else natOfDigits digits)
      else none

def readMagnitude (cs : List Char) : Option Float :=
  let lower := String.ofList (cs.map Char.toLower)
  if lower == "inf" || lower == "infinity" then some (1.0 / 0.0)
  else if lower == "nan" then some (0.0 / 0.0)
  else
    let whole := cs.takeWhile Char.isDigit
    let (fraction,tail) := match cs.dropWhile Char.isDigit with
      | '.' :: rest => (rest.takeWhile Char.isDigit,rest.dropWhile Char.isDigit)
      | rest => ([],rest)
    if whole.isEmpty && fraction.isEmpty then none
    else (readExponent tail).map fun exponent =>
      nearestFloat (natOfDigits (whole ++ fraction)) (exponent - (fraction.length : Int))

def readFloat (text : String) : Option Float :=
  match text.toList with
  | '-' :: rest => (readMagnitude rest).map (fun x => -x)
  | '+' :: rest => readMagnitude rest
  | rest => readMagnitude rest

end OlapQuery.Decimal
