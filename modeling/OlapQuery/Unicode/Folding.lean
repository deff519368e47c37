import OlapQuery.Unicode.Case
import OlapQuery.Unicode.Category

-- Sets of characters that are closed under a change of case.

namespace OlapQuery.Unicode

def Shift.pairs (s : Shift) : List (Nat × Nat) :=
  (List.range ((s.last - s.first) / s.step + 1)).map fun i =>
    (s.first + i * s.step,s.apply (s.first + i * s.step))

-- Each character that stands for another when case does not count, with that other: its small
-- letter, or the letter that it is a variant of.
def foldings : List (Nat × Nat) :=
  (lowerShifts.flatMap Shift.pairs ++ variants).filter (fun pair => !latest.contains pair.1)

def CodeSet.folded (s : CodeSet) : CodeSet :=
  let forward := foldings.filterMap fun (code,folded) =>
    if s.contains code then some (folded,folded) else none
  let reached := CodeSet.ofRanges (s ++ forward)
  let back := foldings.filterMap fun (code,folded) =>
    if reached.contains folded then some (code,code) else none
  .ofRanges (reached ++ back)

def CodeSet.foldedAscii (s : CodeSet) : CodeSet :=
  let letters := List.range 26
  let small := letters.filterMap fun i =>
    if s.contains (0x41 + i) then some (0x61 + i,0x61 + i) else none
  let capital := letters.filterMap fun i =>
    if s.contains (0x61 + i) then some (0x41 + i,0x41 + i) else none
  .ofRanges (s ++ small ++ capital)

end OlapQuery.Unicode
