import Std.Data.HashMap
import OlapQuery.Regex.ByteSequence
import OlapQuery.Regex.Normal
import OlapQuery.Regex.Parser

-- How large the automaton of a pattern is. It reads bytes, forwards or backwards, and shares what
-- it can between the characters of a class. Its size decides whether a pattern is too large.

namespace OlapQuery.Regex

open Unicode

-- Ten mebibytes.
def maxBytes : Nat := 10 * 1024 * 1024

def stateBytes : Nat := 32
def transitionBytes : Nat := 8
def alternativeBytes : Nat := 4

inductive Direction where
  | forwards
  | backwards
  deriving DecidableEq, Repr

structure Built where
  states : Nat := 0
  bytes : Nat := 0

namespace Built

def grow? (b : Built) (states bytes : Nat) : Option Built :=
  let grown : Built := { states := b.states + states,bytes := b.bytes + bytes }
  if grown.bytes ≤ maxBytes then some grown else none

def plain? (b : Built) (count : Nat) : Option Built :=
  b.grow? count (count * stateBytes)

def choice? (b : Built) (transitions : Nat) : Option Built :=
  b.grow? 1 (stateBytes + transitions * transitionBytes)

def branch? (b : Built) (alternatives : Nat) : Option Built :=
  b.grow? 1 (stateBytes + alternatives * alternativeBytes)

def alternative? (b : Built) : Option Built :=
  b.grow? 0 alternativeBytes

end Built

-- A part of an automaton ends in a state of one way on or in a branch.
inductive Ending where
  | plain
  | branch
  deriving DecidableEq, Repr

def Built.leave? (b : Built) : Ending → Option Built
  | .plain => some b
  | .branch => b.alternative?

structure Transition where
  range : ByteRange
  next : Nat
  deriving DecidableEq, Repr

def mix (hash : UInt64) (n : Nat) : UInt64 :=
  (hash ^^^ n.toUInt64) * 1099511628211

def hashStart : UInt64 := 14695981039346656037

def transitionSlots : Nat := 10000

def transitionSlot (transitions : List Transition) : Nat :=
  let hash := transitions.foldl (fun hash t => mix (mix (mix hash t.range.first) t.range.last) t.next)
    hashStart
  hash.toNat % transitionSlots

-- States of a class that can be used again: each slot remembers the last one.
abbrev SharedStates := Std.HashMap Nat (List Transition × Nat)

def share? (b : Built) (shared : SharedStates) (transitions : List Transition) :
    Option (Nat × Built × SharedStates) :=
  let slot := transitionSlot transitions
  let remembered := shared.get? slot
  match remembered with
  | some (known,state) =>
      if known = transitions then some (state,b,shared)
      else
        (b.choice? transitions.length).map fun grown =>
          (b.states,grown,shared.insert slot (transitions,b.states))
  | none =>
      (b.choice? transitions.length).map fun grown =>
        (b.states,grown,shared.insert slot (transitions,b.states))

def byFirst : List ByteSequence → List (ByteRange × List ByteSequence)
  | [] => []
  | [] :: rest => byFirst rest
  | (range :: tail) :: rest =>
      match byFirst rest with
      | (other,tails) :: groups =>
          if other = range then (range,tail :: tails) :: groups
          else (range,[tail]) :: (other,tails) :: groups
      | [] => [(range,[tail])]

-- The state that reads one of the sequences and goes on to `target`. Sequences are at most
-- `length` ranges long.
def readSequences? (target : Nat) : Nat → List ByteSequence → Built → SharedStates →
    Option (Nat × Built × SharedStates)
  | 0,_,b,shared => some (target,b,shared)
  | length + 1,sequences,b,shared =>
      if sequences.all List.isEmpty then some (target,b,shared)
      else do
        let (transitions,b,shared) ← (byFirst sequences).foldlM
          (fun (transitions,b,shared) (range,tails) => do
            let (next,b,shared) ← readSequences? target length tails b shared
            return (transitions.push { range,next },b,shared))
          ((#[] : Array Transition),b,shared)
        share? b shared transitions.toList

def suffixSlots : Nat := 1000

def suffixSlot (t : Transition) : Nat :=
  (mix (mix (mix hashStart t.next) t.range.first) t.range.last).toNat % suffixSlots

abbrev SharedSuffixes := Std.HashMap Nat (Transition × Nat)

def shareSuffix? (b : Built) (shared : SharedSuffixes) (t : Transition) :
    Option (Nat × Built × SharedSuffixes) :=
  let slot := suffixSlot t
  match shared.get? slot with
  | some (known,state) =>
      if known = t then some (state,b,shared)
      else (b.plain? 1).map fun grown => (b.states,grown,shared.insert slot (t,b.states))
  | none => (b.plain? 1).map fun grown => (b.states,grown,shared.insert slot (t,b.states))

def readBackwards? (target : Nat) (sequence : ByteSequence) (b : Built) (shared : SharedSuffixes) :
    Option (Built × SharedSuffixes) := do
  let (_,b,shared) ← sequence.foldlM
    (fun (next,b,shared) range => shareSuffix? b shared { range,next }) (target,b,shared)
  return (← b.alternative?,shared)

def isAscii (codes : CodeSet) : Bool :=
  codes.all (fun range => range.2 < 0x80)

-- A class. The state that it leads to comes first, or after the branch that it starts from.
def buildClass? (direction : Direction) (codes : CodeSet) (b : Built) : Option Built :=
  if isAscii codes then do
    let b ← b.plain? 1
    b.choice? codes.length
  else
    match direction with
    | .forwards => do
        let target := b.states
        let b ← b.plain? 1
        let (_,b,_) ← readSequences? target 4 (byteSequences codes) b {}
        return b
    | .backwards => do
        let b ← b.branch? 0
        let target := b.states
        let b ← b.plain? 1
        let (b,_) ← (byteSequences codes).foldlM
          (fun (b,shared) sequence => readBackwards? target sequence b shared)
          (b,(({} : Std.HashMap Nat (Transition × Nat))))
        return b

abbrev Part := Built → Option (Built × Ending)

namespace Part

def plain (count : Nat) : Part :=
  fun b => (b.plain? count).map (·,.plain)

def thenPart (part : Part) : Built × Ending → Option (Built × Ending)
  | (b,ending) => do
      let (b,next) ← part b
      return (← b.leave? ending,next)

def moreCopies (part : Part) : Nat → Built × Ending → Option (Built × Ending)
  | 0,built => some built
  | count + 1,built => do moreCopies part count (← part.thenPart built)

def copies (part : Part) : Nat → Part
  | 0 => plain 1
  | count + 1 => fun b => do part.moreCopies count (← part b)

def sequence : List Part → Part
  | [] => plain 1
  | first :: rest => fun b => do rest.foldlM (fun built part => part.thenPart built) (← first b)

-- One way on from a branch to a part that has been built, and from the end of the part.
def join? (b : Built) (ending : Ending) : Option Built := do
  (← b.alternative?).leave? ending

-- Two parts come before the branch to them, others after it.
def either : List Part → Part
  | [] => plain 1
  | [part] => part
  | first :: second :: rest => fun b => do
      let (b,firstEnding) ← first b
      let (b,secondEnding) ← second b
      let b ← (← b.branch? 0).plain? 1
      let b ← join? (← join? b firstEnding) secondEnding
      let b ← rest.foldlM
        (fun b part => do
          let (b,ending) ← part b
          join? b ending)
        b
      return (b,.plain)

def optional (part : Part) : Part :=
  fun b => do
    let (b,ending) ← part (← b.branch? 2)
    return (← (← b.plain? 1).leave? ending,.plain)

def optionalCopies (part : Part) : Nat → Built × Ending → Option Built
  | 0,(b,ending) => b.leave? ending
  | count + 1,(b,ending) => do
      let (b,next) ← part (← b.branch? 2)
      optionalCopies part count (← b.leave? ending,next)

def bounded (part : Part) (low high : Nat) : Part :=
  fun b => do
    let (b,ending) ← part.copies low b
    return (← part.optionalCopies (high - low) (← b.plain? 1,ending),.plain)

-- Any number of times. What can match the empty text is tried once before it is tried again.
def star (part : Part) (takesBytes : Bool) : Part :=
  fun b =>
    if takesBytes then do
      let (b,ending) ← part (← b.branch? 1)
      return (← b.leave? ending,.branch)
    else do
      let (b,ending) ← part b
      let b ← (← b.leave? ending).branch? 2
      return (← (← b.branch? 2).plain? 1,.plain)

-- The last copy is repeated.
def atLeast (part : Part) (low : Nat) : Part :=
  fun b => do
    let (b,ending) ← part.copies low b
    let b ← b.branch? 1
    return (← b.leave? ending,.branch)

def repeated (part : Part) (takesBytes : Bool) (low : Nat) (high : Option Nat) : Part :=
  match high with
  | none => if low == 0 then part.star takesBytes else part.atLeast low
  | some high =>
      if low == 0 && high == 1 then part.optional
      else if low == high then part.copies low
      else part.bounded low high

end Part

def literalBytes (text : List Char) : List Nat :=
  text.flatMap (fun c => utf8Bytes c.toNat)

def divide : List (List Nat) → List (List (List Nat))
  | [] => [[]]
  | [] :: rest => [] :: divide rest
  | text :: rest =>
      match divide rest with
      | segment :: segments => (text :: segment) :: segments
      | [] => [[text]]

def dropEmptyRepeats : List (List Nat) → List (List Nat)
  | [] :: rest => [] :: rest.dropWhile List.isEmpty
  | texts => texts

def byFirstByte (texts : List (List Nat)) : List (List (List Nat)) :=
  let firsts := texts.filterMap List.head?
  firsts.eraseDups.map fun first =>
    texts.filterMap fun text => if text.head? == some first then some text.tail else none

-- Texts share what they have in common at the front. Where a text ends, those that come after it
-- start anew, since they are tried after it. Texts are at most `length` bytes long.
def buildTexts? : Nat → List (List Nat) → Built → Option Built
  | 0,_,b => some b
  | length + 1,texts,b =>
      if texts.all List.isEmpty then some b
      else do
        let segments := (divide (dropEmptyRepeats texts)).map byFirstByte
        let b ← segments.foldlM
          (fun b groups => do
            let b ← groups.foldlM (fun b tails => buildTexts? length tails b) b
            match groups with
            | [] => some b
            | [_] => b.plain? 1
            | groups => b.choice? groups.length)
          b
        b.branch? ((segments.filter (fun groups => !groups.isEmpty)).length + (segments.length - 1))

def Part.ofTexts (texts : List (List Nat)) : Part :=
  fun b => do
    let longest := texts.foldl (fun length text => max length text.length) 0
    let b ← buildTexts? (longest + 1) texts (← b.plain? 1)
    return (b,.plain)

def Normal.text? : Normal → Option (List Char)
  | .literal text => some text
  | _ => none

def Direction.order {α : Type} (d : Direction) (items : List α) : List α :=
  match d with
  | .forwards => items
  | .backwards => items.reverse

mutual

def Normal.part (d : Direction) : Normal → Part
  | .empty => .plain 1
  | .literal text => .plain (literalBytes text).length
  | .charClass codes => fun b => (buildClass? d codes b).map (·,.plain)
  | .anchor _ => .plain 1
  | .repetition low high _ sub =>
      (sub.part d).repeated (sub.minLength?.any (· > 0)) low high
  | .capture _ sub =>
      match d with
      | .forwards => .sequence [.plain 1,sub.part d,.plain 1]
      | .backwards => sub.part d
  | .concat subs => .sequence (d.order (Normal.partList d subs))
  | .alternation subs =>
      match subs.mapM Normal.text? with
      | some texts => .ofTexts (texts.map fun text => d.order (literalBytes text))
      | none => .either (Normal.partList d subs)

def Normal.partList (d : Direction) : List Normal → List Part
  | [] => []
  | sub :: subs => sub.part d :: Normal.partList d subs

end

-- Whether the first of the parts, or one that only empty ones stand before, is anchored. Each part
-- comes with whether it is empty.
def leads : List (Bool × Bool) → Bool
  | [] => false
  | (isAnchored,isEmpty) :: rest => isAnchored || (isEmpty && leads rest)

mutual

def Normal.isAnchored (d : Direction) : Normal → Bool
  | .empty => false
  | .literal _ => false
  | .charClass _ => false
  | .anchor a => a == (match d with | .forwards => .textStart | .backwards => .textEnd)
  | .repetition low _ _ sub => low > 0 && sub.isAnchored d
  | .capture _ sub => sub.isAnchored d
  | .concat subs => leads (d.order (Normal.anchorings d subs))
  | .alternation subs => (Normal.anchorings d subs).all (·.1)

def Normal.anchorings (d : Direction) : List Normal → List (Bool × Bool)
  | [] => []
  | sub :: subs => (sub.isAnchored d,sub.isEmptyOnly) :: Normal.anchorings d subs

end

-- What a search skips before a match: nothing, or any bytes.
def searchPart (isAnchored : Bool) : Part :=
  if isAnchored then .plain 1
  else
    Part.star (fun b => do return (← (← b.plain? 1).choice? 1,.plain)) true

def Normal.automaton (d : Direction) (n : Normal) : Part :=
  .sequence [searchPart (n.isAnchored d),(Normal.capture 0 n).part d,.plain 1]

-- Very many texts to choose from are searched for without an automaton.
def manyTexts : Nat := 3000

def Normal.isTextList : Normal → Bool
  | .alternation subs => subs.length ≥ manyTexts && subs.all (fun sub => sub.text?.isSome)
  | _ => false

def Normal.fits (n : Normal) : Bool :=
  n.isTextList || ((n.automaton .forwards {}).isSome && (n.automaton .backwards {}).isSome)

-- Whether a regular expression can be used: it can be read, its flags allow all that it holds,
-- and it is not too large.
def isWellFormed (text : String) : Bool :=
  match parse text with
  | none => false
  | some pattern =>
      match pattern.normal? {} with
      | none => false
      | some (normal,_) => normal.fits

end OlapQuery.Regex
