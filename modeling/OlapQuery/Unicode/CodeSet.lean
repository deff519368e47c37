-- Characters by code point, and sets of code points as inclusive ranges that ascend and do not
-- touch.

namespace OlapQuery

namespace Text

def hexDigits (n : Nat) : String :=
  String.ofList (Nat.toDigits 16 n)

def hexValue? (c : Char) : Option Nat :=
  if c.isDigit then some (c.toNat - '0'.toNat)
  else if 'a' ≤ c ∧ c ≤ 'f' then some (c.toNat - 'a'.toNat + 10)
  else if 'A' ≤ c ∧ c ≤ 'F' then some (c.toNat - 'A'.toNat + 10)
  else none

-- The halves of pairs are no characters, and none lies beyond the last plane.
def isScalar (code : Nat) : Bool :=
  code < 0xD800 || (0xE000 ≤ code && code < 0x110000)

end Text

namespace Unicode

abbrev CodeSet := List (Nat × Nat)

def lastCode : Nat := 0x10FFFF

namespace CodeSet

def contains (s : CodeSet) (code : Nat) : Bool :=
  s.any (fun range => range.1 ≤ code && code ≤ range.2)

-- Joins ranges that overlap or touch; the ranges ascend by their first code point.
def joinFrom (current : Nat × Nat) : List (Nat × Nat) → CodeSet
  | [] => [current]
  | range :: rest =>
      if range.1 ≤ current.2 + 1 then joinFrom (current.1,max current.2 range.2) rest
      else current :: joinFrom range rest

def join : List (Nat × Nat) → CodeSet
  | [] => []
  | range :: rest => joinFrom range rest

def startsFirst (a b : Nat × Nat) : Bool :=
  a.1 ≤ b.1

def ofRanges (ranges : List (Nat × Nat)) : CodeSet :=
  join (ranges.mergeSort startsFirst)

def union (a b : CodeSet) : CodeSet :=
  join (List.merge a b startsFirst)

def unions (sets : List CodeSet) : CodeSet :=
  ofRanges sets.flatten

def gaps (first last : Nat) : CodeSet → CodeSet
  | [] => if first ≤ last then [(first,last)] else []
  | range :: rest =>
      if first < range.1 then (first,range.1 - 1) :: gaps (range.2 + 1) last rest
      else gaps (max first (range.2 + 1)) last rest

def complement (last : Nat) (s : CodeSet) : CodeSet :=
  gaps 0 last s

-- Sets with all members up to `last`.
def inter (last : Nat) (a b : CodeSet) : CodeSet :=
  complement last (union (complement last a) (complement last b))

def diff (last : Nat) (a b : CodeSet) : CodeSet :=
  complement last (union (complement last a) b)

-- How ranges are written: code points in hexadecimal, with blanks and new lines between the
-- ranges. A range is `41-5A`, or `100~12E` for every second code point, or a single one.
inductive Mark where
  | single
  | to
  | everySecond
  deriving DecidableEq, Repr

structure Scan where
  -- In reverse.
  ranges : List (Nat × Nat) := []
  first : Nat := 0
  mark : Mark := .single
  code : Option Nat := none

-- The code points from `first` to `last` in steps of two, in reverse.
def seconds (first last : Nat) : List (Nat × Nat) :=
  (List.range ((last - first) / 2 + 1)).foldl (fun done i => (first + 2 * i,first + 2 * i) :: done) []

def Scan.finish (s : Scan) : List (Nat × Nat) :=
  match s.code,s.mark with
  | none,_ => s.ranges
  | some code,.single => (code,code) :: s.ranges
  | some code,.to => (s.first,code) :: s.ranges
  | some code,.everySecond => seconds s.first code ++ s.ranges

def Scan.step (s : Scan) (c : Char) : Scan :=
  match c with
  | ' ' | '\n' => { ranges := s.finish }
  | '-' => { s with first := s.code.getD 0,mark := .to,code := none }
  | '~' => { s with first := s.code.getD 0,mark := .everySecond,code := none }
  | c => { s with code := some (16 * s.code.getD 0 + (Text.hexValue? c).getD 0) }

def ofText (text : String) : CodeSet :=
  (text.toList.foldl Scan.step {}).finish.reverse

end CodeSet

end Unicode

end OlapQuery
