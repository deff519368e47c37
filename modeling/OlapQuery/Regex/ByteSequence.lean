import OlapQuery.Unicode.CodeSet

-- Ranges of characters as sequences of ranges of bytes: a sequence stands for every choice of one
-- byte from each of its ranges.

namespace OlapQuery.Regex

structure ByteRange where
  first : Nat
  last : Nat
  deriving DecidableEq, Repr

abbrev ByteSequence := List ByteRange

-- The code points of each length in UTF-8. Halves of surrogate pairs are left out.
def lengthBlocks : List (Nat × Nat) :=
  [(0,0x7F),(0x80,0x7FF),(0x800,0xD7FF),(0xE000,0xFFFF),(0x10000,0x10FFFF)]

-- Cuts a range where its ends do not fill blocks of `64 ^ level` code points, from small blocks to
-- large ones, for as many levels as are left.
def cut : Nat → Nat → Nat × Nat → List (Nat × Nat)
  | 0,_,range => [range]
  | levels + 1,level,(first,last) =>
      let size := 64 ^ level
      if first / size == last / size then [(first,last)]
      else
        let isAligned := first % size == 0
        let isFilled := (last + 1) % size == 0
        let start := if isAligned then first else (first / size + 1) * size
        let stop := if isFilled then last + 1 else last / size * size
        let front := if isAligned then [] else [(first,start - 1)]
        let back := if isFilled then [] else [(stop,last)]
        let middle := if start < stop then cut levels (level + 1) (start,stop - 1) else []
        front ++ middle ++ back

def utf8Bytes (code : Nat) : List Nat :=
  if code < 0x80 then [code]
  else if code < 0x800 then [0xC0 + code / 64,0x80 + code % 64]
  else if code < 0x10000 then [0xE0 + code / 4096,0x80 + code / 64 % 64,0x80 + code % 64]
  else
    [0xF0 + code / 262144,0x80 + code / 4096 % 64,0x80 + code / 64 % 64,0x80 + code % 64]

def byteSequence (range : Nat × Nat) : ByteSequence :=
  List.zipWith ByteRange.mk (utf8Bytes range.1) (utf8Bytes range.2)

def byteSequencesOf (range : Nat × Nat) : List ByteSequence :=
  lengthBlocks.flatMap fun (low,high) =>
    let first := max range.1 low
    let last := min range.2 high
    if last < first then []
    else if high == 0x7F then [byteSequence (first,last)]
    else (cut 3 1 (first,last)).map byteSequence

def byteSequences (codes : Unicode.CodeSet) : List ByteSequence :=
  codes.flatMap byteSequencesOf

end OlapQuery.Regex
