-- The shortest decimal that reads back as a given double.
-- A finite double is a significand times a power of two; every real in its rounding interval
-- reads back as it. Among the decimals in that interval the ones with the fewest digits are
-- taken, of those the nearest, and of two nearest the even one. All arithmetic is exact.

namespace OlapQuery

structure Decimal where
  digits : Nat
  exponent : Int
  deriving DecidableEq, Repr

namespace Decimal

-- A positive binary number `significand * 2 ^ exponent`, and whether the next smaller double
-- is only half as far away as the next larger one.
structure Binary where
  significand : Nat
  exponent : Int
  narrowBelow : Bool
  deriving DecidableEq, Repr

def Binary.ofBits (bits : UInt64) : Binary :=
  let fraction := (bits &&& 0xFFFFFFFFFFFFF).toNat
  let biased := ((bits >>> 52) &&& 0x7FF).toNat
  if biased == 0 then
    { significand := fraction,exponent := -1074,narrowBelow := false }
  else
    { significand := fraction + 4503599627370496,exponent := (biased : Int) - 1075
      narrowBelow := fraction == 0 && biased > 1 }

-- The value and its rounding interval as fractions over one denominator, four times the
-- significand in the numerator so that half and quarter steps are whole.
structure Interval where
  low : Nat
  value : Nat
  high : Nat
  denominator : Nat
  closed : Bool
  deriving DecidableEq, Repr

def Binary.interval (b : Binary) : Interval :=
  let scale := b.exponent - 2
  let up := Nat.pow 2 scale.toNat
  let low := if b.narrowBelow then 4 * b.significand - 1 else 4 * b.significand - 2
  { low := low * up
    value := 4 * b.significand * up
    high := (4 * b.significand + 2) * up
    denominator := Nat.pow 2 (-scale).toNat
    closed := b.significand % 2 == 0 }

-- Multiplies the interval by `10 ^ -exponent`, so that the grid of step `10 ^ exponent`
-- becomes the whole numbers.
def Interval.onGrid (i : Interval) (exponent : Int) : Interval :=
  let up := Nat.pow 10 (-exponent).toNat
  { i with
    low := i.low * up,value := i.value * up,high := i.high * up
    denominator := i.denominator * Nat.pow 10 exponent.toNat }

def Interval.contains (i : Interval) (n : Nat) : Bool :=
  if i.closed then i.low ≤ n * i.denominator && n * i.denominator ≤ i.high
  else i.low < n * i.denominator && n * i.denominator < i.high

def Interval.nearest? (i : Interval) : Option Nat :=
  let below := i.value / i.denominator
  let above := below + 1
  let gapBelow := i.value - below * i.denominator
  let gapAbove := above * i.denominator - i.value
  match i.contains below,i.contains above with
  | false,false => none
  | true,false => some below
  | false,true => some above
  | true,true =>
      if gapBelow < gapAbove then some below
      else if gapAbove < gapBelow then some above
      else if below % 2 == 0 then some below else some above

def Binary.leadingExponent (b : Binary) (i : Interval) : Int :=
  let estimate := Int.fdiv (((b.significand.log2 : Int) + b.exponent) * 30103) 100000
  let reaches (e : Int) : Bool := (i.onGrid e).denominator ≤ (i.onGrid e).value
  if reaches (estimate + 1) then estimate + 1
  else if reaches estimate then estimate
  else estimate - 1

def stripZeros : Nat → Decimal → Decimal
  | 0,d => d
  | n + 1,d =>
      if d.digits ≠ 0 ∧ d.digits % 10 = 0 then
        stripZeros n { digits := d.digits / 10,exponent := d.exponent + 1 }
      else d

-- Tries one digit, then two, and so on; seventeen always suffice.
def Binary.shortest (b : Binary) : Decimal :=
  if b.significand = 0 then { digits := 0,exponent := 0 }
  else
    let i := b.interval
    let leading := b.leadingExponent i
    let found := (List.range 17).findSome? fun (places : Nat) =>
      let exponent := leading - (places : Int)
      (i.onGrid exponent).nearest?.map fun digits => { digits,exponent : Decimal }
    stripZeros 17 (found.getD { digits := 0,exponent := 0 })

end Decimal

end OlapQuery
