import OlapQuery.Regex.Pattern
import OlapQuery.Unicode.Folding

-- Patterns with their flags worked in: what is left is literals, classes of characters, positions,
-- repetitions, captures, sequences and alternatives, each in its simplest form.

namespace OlapQuery.Regex

open Unicode

-- Only the ends of the text matter for the shape of a search.
inductive Anchor where
  | textStart
  | textEnd
  | other (p : Position)
  deriving DecidableEq, Repr

inductive Normal where
  | empty
  | literal (text : List Char)
  | charClass (codes : CodeSet)
  | anchor (a : Anchor)
  | repetition (low : Nat) (high : Option Nat) (greedy : Bool) (sub : Normal)
  | capture (index : Nat) (sub : Normal)
  | concat (subs : List Normal)
  | alternation (subs : List Normal)
  deriving BEq

def utf8Size (code : Nat) : Nat :=
  if code < 0x80 then 1 else if code < 0x800 then 2 else if code < 0x10000 then 3 else 4

def shortest? : List (Option Nat) → Option Nat
  | [] => none
  | [length] => length
  | length :: lengths => do return min (← length) (← shortest? lengths)

def total? (lengths : List (Option Nat)) : Option Nat :=
  lengths.foldl (fun sum length => do return (← sum) + (← length)) (some 0)

mutual

-- The fewest bytes that a pattern takes, unless it takes nothing at all.
def Normal.minLength? : Normal → Option Nat
  | .empty => some 0
  | .literal text => some (text.foldl (fun sum c => sum + c.utf8Size) 0)
  | .charClass codes => codes.head?.map (fun range => utf8Size range.1)
  | .anchor _ => some 0
  | .repetition low _ _ sub => sub.minLength?.map (low * ·)
  | .capture _ sub => sub.minLength?
  | .concat subs => total? (Normal.minLengths subs)
  | .alternation subs => shortest? (Normal.minLengths subs)

def Normal.minLengths : List Normal → List (Option Nat)
  | [] => []
  | sub :: subs => sub.minLength? :: Normal.minLengths subs

end

mutual

-- Whether a pattern can match, and only the empty text.
def Normal.isEmptyOnly : Normal → Bool
  | .empty => true
  | .literal text => text.isEmpty
  | .charClass _ => false
  | .anchor _ => true
  | .repetition _ high _ sub => high.isSome && (high == some 0 || sub.isEmptyOnly)
  | .capture _ sub => sub.isEmptyOnly
  | .concat subs => Normal.areEmptyOnly subs
  | .alternation subs => Normal.areEmptyOnly subs

def Normal.areEmptyOnly : List Normal → Bool
  | [] => true
  | sub :: subs => sub.isEmptyOnly && Normal.areEmptyOnly subs

end

namespace Normal

-- A class of one character is a literal. Halves of surrogate pairs are no characters.
def ofClass (codes : CodeSet) : Normal :=
  match codes.without surrogates with
  | [(first,last)] => if first == last then .literal [Char.ofNat first] else .charClass [(first,last)]
  | codes => .charClass codes

-- What can only match the empty text is not repeated.
def ofRepetition (low : Nat) (high : Option Nat) (greedy : Bool) (sub : Normal) : Normal :=
  let isEmpty := sub.isEmptyOnly
  let low := if isEmpty then min low 1 else low
  let high := if isEmpty then some (min (high.getD 1) 1) else high
  if high == some 0 then .empty
  else if low == 1 && high == some 1 then sub
  else .repetition low high greedy sub

def parts : Normal → List Normal
  | .empty => []
  | .concat subs => subs
  | sub => [sub]

def joinLiterals : List Normal → List Normal
  | [] => []
  | .literal text :: rest =>
      match joinLiterals rest with
      | .literal more :: joined => .literal (text ++ more) :: joined
      | joined => .literal text :: joined
  | sub :: rest => sub :: joinLiterals rest

def ofConcat (subs : List Normal) : Normal :=
  match joinLiterals (subs.flatMap parts) with
  | [] => .empty
  | [sub] => sub
  | subs => .concat subs

def alternatives : Normal → List Normal
  | .alternation subs => subs
  | sub => [sub]

def singleChar? : Normal → Option Char
  | .literal [c] => some c
  | _ => none

def classCodes? : Normal → Option CodeSet
  | .charClass codes => some codes
  | _ => none

def sequence? : Normal → Option (List Normal)
  | .concat subs => some subs
  | _ => none

def commonLength : List Normal → List Normal → Nat
  | a :: as,b :: bs => if a == b then commonLength as bs + 1 else 0
  | _,_ => 0

def classOfAlternatives? (subs : List Normal) : Option Normal :=
  match subs.mapM singleChar?,subs.mapM classCodes? with
  | some chars,_ => some (ofClass (.ofRanges (chars.map fun c => (c.toNat,c.toNat))))
  | none,some sets => some (ofClass (.unions sets))
  | none,none => none

def commonFront? (subs : List Normal) : Option (List Normal × List (List Normal)) := do
  let sequences ← subs.mapM sequence?
  let first ← sequences.head?
  let count := sequences.foldl (fun count s => min count (commonLength first s)) first.length
  if count == 0 then none else some (first.take count,sequences.map (List.drop count))

-- One alternative for itself; single characters and classes as one class; what all have in common
-- at the front before the rest. Each round moves at least one part to the front.
def ofAlternatives : Nat → List Normal → Normal
  | 0,subs => .alternation subs
  | rounds + 1,subs =>
      match subs.flatMap alternatives with
      | [] => .charClass []
      | [sub] => sub
      | subs =>
          match classOfAlternatives? subs,commonFront? subs with
          | some single,_ => single
          | none,some (front,rests) =>
              ofConcat (front ++ [ofAlternatives rounds (rests.map ofConcat)])
          | none,none => .alternation subs

end Normal

structure Modes where
  caseInsensitive : Bool := false
  multiLine : Bool := false
  dotMatchesNewLine : Bool := false
  swapGreed : Bool := false
  unicode : Bool := true
  crlf : Bool := false

namespace Modes

def set (m : Modes) (flag : Flag) (on : Bool) : Modes :=
  match flag with
  | .caseInsensitive => { m with caseInsensitive := on }
  | .multiLine => { m with multiLine := on }
  | .dotMatchesNewLine => { m with dotMatchesNewLine := on }
  | .swapGreed => { m with swapGreed := on }
  | .unicode => { m with unicode := on }
  | .crlf => { m with crlf := on }
  | .verbose => m

def apply (m : Modes) (change : FlagChange) : Modes :=
  change.foldl (fun m entry => m.set entry.1 entry.2) m

def fold (m : Modes) (codes : CodeSet) : CodeSet :=
  if !m.caseInsensitive then codes
  else if m.unicode then codes.folded
  else codes.foldedAscii

def last (m : Modes) : Nat :=
  if m.unicode then lastCode else 0xFF

-- Without Unicode a class that holds bytes beyond ASCII would match parts of characters.
def accept? (m : Modes) (codes : CodeSet) : Option CodeSet :=
  if m.unicode || codes.all (fun range => range.2 < 0x80) then some codes else none

def negate (m : Modes) (negated : Bool) (codes : CodeSet) : CodeSet :=
  if negated then .complement m.last codes else codes

end Modes

def Literal.code (l : Literal) : Nat := l.char.toNat

def Modes.classCode? (m : Modes) (l : Literal) : Option Nat :=
  if m.unicode || l.code < 0x80 then some l.code else none

def Shorthand.codes (kind : Shorthand) (unicode : Bool) : CodeSet :=
  match kind,unicode with
  | .digit,true => digitCodes
  | .space,true => whiteSpace
  | .word,true => wordCodes
  | .digit,false => AsciiClass.digit.codes
  | .space,false => AsciiClass.space.codes
  | .word,false => AsciiClass.word.codes

def propertyCodes? (name : List Char) (value : Option (List Char)) : Option CodeSet :=
  match value with
  | none => property? (normalizeName name)
  | some value => propertyValue? (normalizeName name) (normalizeName value)

def SetOperation.apply (last : Nat) (left right : CodeSet) : SetOperation → CodeSet
  | .intersection => CodeSet.inter last left right
  | .difference => CodeSet.diff last left right
  | .symmetricDifference =>
      CodeSet.diff last (left.union right) (CodeSet.inter last left right)

mutual

def CharClass.codes? (m : Modes) : CharClass → Option CodeSet
  | .literal l => (m.classCode? l).map fun code => [(code,code)]
  | .range first last => do return [(← m.classCode? first,← m.classCode? last)]
  | .shorthand negated kind => m.accept? (m.negate negated (kind.codes m.unicode))
  | .ascii negated kind => m.accept? (m.negate negated (m.fold kind.codes))
  | .property negated name value =>
      if m.unicode then (propertyCodes? name value).map fun codes => m.negate negated (m.fold codes)
      else none
  | .bracketed negated set => do m.accept? (m.negate negated (m.fold (← set.codes? m)))
  | .union sets => CharClass.unionCodes? m sets
  | .combination operation left right => do
      return operation.apply m.last (m.fold (← left.codes? m)) (m.fold (← right.codes? m))

def CharClass.unionCodes? (m : Modes) : List CharClass → Option CodeSet
  | [] => some []
  | set :: sets => do return (← set.codes? m).union (← CharClass.unionCodes? m sets)

end

-- A byte beyond ASCII is no character.
def Modes.literal? (m : Modes) (l : Literal) : Option Normal :=
  if !m.unicode && l.isByte && l.code ≥ 0x80 then none
  else if m.unicode || l.code < 0x80 then some (.ofClass (m.fold [(l.code,l.code)]))
  else some (.literal [l.char])

def Modes.dot? (m : Modes) : Option Normal :=
  if !m.unicode then none
  else if m.dotMatchesNewLine then some (.charClass [(0,lastCode)])
  else
    let newLines : CodeSet := if m.crlf then [(0x0A,0x0A),(0x0D,0x0D)] else [(0x0A,0x0A)]
    some (.ofClass (.complement lastCode newLines))

def Modes.anchor (m : Modes) (p : Position) : Anchor :=
  match p with
  | .textStart => .textStart
  | .textEnd => .textEnd
  | .lineStart => if m.multiLine then .other p else .textStart
  | .lineEnd => if m.multiLine then .other p else .textEnd
  | p => .other p

mutual

def Pattern.normal? (m : Modes) : Pattern → Option (Normal × Modes)
  | .empty => some (.empty,m)
  | .flags change => some (.empty,m.apply change)
  | .literal l => (m.literal? l).map (·,m)
  | .dot => m.dot?.map (·,m)
  | .position p => some (.anchor (m.anchor p),m)
  | .charClass c => (c.codes? m).map fun codes => (.ofClass codes,m)
  | .repetition low high greedy sub => do
      let (sub,after) ← sub.normal? m
      return (.ofRepetition low high (greedy != after.swapGreed) sub,after)
  | .group (.plain change) sub => do
      let (sub,_) ← sub.normal? (m.apply change)
      return (sub,m)
  | .group (.capture index) sub => do
      let (sub,_) ← sub.normal? m
      return (.capture index sub,m)
  | .alternation subs => do
      let (subs,after) ← Pattern.normals? m subs
      return (.ofAlternatives (maxDepth + 1) subs,after)
  | .concat subs => do
      let (subs,after) ← Pattern.normals? m subs
      return (.ofConcat subs,after)

def Pattern.normals? (m : Modes) : List Pattern → Option (List Normal × Modes)
  | [] => some ([],m)
  | sub :: subs => do
      let (sub,m) ← sub.normal? m
      let (subs,m) ← Pattern.normals? m subs
      return (sub :: subs,m)

end

end OlapQuery.Regex
