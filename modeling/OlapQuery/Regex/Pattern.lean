import OlapQuery.Regex.Property

-- What a regular expression says, as it is written.

namespace OlapQuery.Regex

structure Literal where
  char : Char
  -- Written with two hexadecimal digits, which stand for a byte where Unicode is off.
  isByte : Bool := false
  deriving DecidableEq, Repr

inductive Flag where
  | caseInsensitive
  | multiLine
  | dotMatchesNewLine
  | swapGreed
  | unicode
  | crlf
  | verbose
  deriving DecidableEq, Repr

abbrev FlagChange := List (Flag × Bool)

def FlagChange.get? (change : FlagChange) (flag : Flag) : Option Bool :=
  (change.find? (fun entry => entry.1 == flag)).map (·.2)

inductive Position where
  | lineStart
  | lineEnd
  | textStart
  | textEnd
  | wordBoundary
  | notWordBoundary
  | wordStart
  | wordEnd
  | wordStartHalf
  | wordEndHalf
  deriving DecidableEq, Repr

inductive Shorthand where
  | digit
  | space
  | word
  deriving DecidableEq, Repr

inductive AsciiClass where
  | alnum
  | alpha
  | ascii
  | blank
  | cntrl
  | digit
  | graph
  | lower
  | print
  | punct
  | space
  | upper
  | word
  | xdigit
  deriving DecidableEq, Repr

def AsciiClass.ofName? (name : String) : Option AsciiClass :=
  match name with
  | "alnum" => some .alnum
  | "alpha" => some .alpha
  | "ascii" => some .ascii
  | "blank" => some .blank
  | "cntrl" => some .cntrl
  | "digit" => some .digit
  | "graph" => some .graph
  | "lower" => some .lower
  | "print" => some .print
  | "punct" => some .punct
  | "space" => some .space
  | "upper" => some .upper
  | "word" => some .word
  | "xdigit" => some .xdigit
  | _ => none

def AsciiClass.codes : AsciiClass → Unicode.CodeSet
  | .alnum => [(0x30,0x39),(0x41,0x5A),(0x61,0x7A)]
  | .alpha => [(0x41,0x5A),(0x61,0x7A)]
  | .ascii => [(0,0x7F)]
  | .blank => [(0x09,0x09),(0x20,0x20)]
  | .cntrl => [(0,0x1F),(0x7F,0x7F)]
  | .digit => [(0x30,0x39)]
  | .graph => [(0x21,0x7E)]
  | .lower => [(0x61,0x7A)]
  | .print => [(0x20,0x7E)]
  | .punct => [(0x21,0x2F),(0x3A,0x40),(0x5B,0x60),(0x7B,0x7E)]
  | .space => [(0x09,0x0D),(0x20,0x20)]
  | .upper => [(0x41,0x5A)]
  | .word => [(0x30,0x39),(0x41,0x5A),(0x5F,0x5F),(0x61,0x7A)]
  | .xdigit => [(0x30,0x39),(0x41,0x46),(0x61,0x66)]

inductive SetOperation where
  | intersection
  | difference
  | symmetricDifference
  deriving DecidableEq, Repr

inductive CharClass where
  | literal (l : Literal)
  | range (first last : Literal)
  | shorthand (negated : Bool) (kind : Shorthand)
  | ascii (negated : Bool) (kind : AsciiClass)
  | property (negated : Bool) (name : List Char) (value : Option (List Char))
  | bracketed (negated : Bool) (set : CharClass)
  | union (sets : List CharClass)
  | combination (operation : SetOperation) (left right : CharClass)

inductive GroupKind where
  | capture (index : Nat)
  | plain (flags : FlagChange)
  deriving Repr

inductive Pattern where
  | empty
  | flags (change : FlagChange)
  | literal (l : Literal)
  | dot
  | position (p : Position)
  | charClass (c : CharClass)
  | repetition (low : Nat) (high : Option Nat) (greedy : Bool) (sub : Pattern)
  | group (kind : GroupKind) (sub : Pattern)
  | alternation (subs : List Pattern)
  | concat (subs : List Pattern)

-- A single set is not a union.
def CharClass.ofItems : List CharClass → CharClass
  | [item] => item
  | items => .union items

def Pattern.ofItems : List Pattern → Pattern
  | [] => .empty
  | [item] => item
  | items => .concat items

def Pattern.ofAlternatives : List Pattern → Pattern
  | [alternative] => alternative
  | alternatives => .alternation alternatives

mutual

def CharClass.depth : CharClass → Nat
  | .literal _ => 0
  | .range _ _ => 0
  | .shorthand _ _ => 0
  | .ascii _ _ => 0
  | .property _ _ _ => 0
  | .bracketed _ set => set.depth + 1
  | .union [] => 0
  | .union (set :: sets) => max set.depth (CharClass.depths sets) + 1
  | .combination _ left right => max left.depth right.depth + 1

def CharClass.depths : List CharClass → Nat
  | [] => 0
  | set :: sets => max set.depth (CharClass.depths sets)

end

mutual

def Pattern.depth : Pattern → Nat
  | .empty => 0
  | .flags _ => 0
  | .literal _ => 0
  | .dot => 0
  | .position _ => 0
  | .charClass c => c.depth
  | .repetition _ _ _ sub => sub.depth + 1
  | .group _ sub => sub.depth + 1
  | .alternation subs => Pattern.depths subs + 1
  | .concat subs => Pattern.depths subs + 1

def Pattern.depths : List Pattern → Nat
  | [] => 0
  | sub :: subs => max sub.depth (Pattern.depths subs)

end

def maxDepth : Nat := 250

end OlapQuery.Regex
