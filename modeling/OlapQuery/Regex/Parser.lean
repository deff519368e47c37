import OlapQuery.Regex.Pattern
import OlapQuery.Text.Letters
import OlapQuery.Word

-- Reads regular expressions: groups and classes close, repetitions have something to repeat,
-- escapes are known and bounds are in order. There is no look-around and there are no references
-- to groups.

namespace OlapQuery.Regex

def isMeta (c : Char) : Bool :=
  "\\.+*?()|[]\x7b\x7d^$#&-~".toList.contains c

-- Any ASCII character but letters, digits and angle brackets may be escaped for itself.
def isEscapable (c : Char) : Bool :=
  isMeta c || (c.toNat < 0x80 && !c.isAlphanum && c != '<' && c != '>')

def openBrace : Char := Char.ofNat 0x7B
def closeBrace : Char := Char.ofNat 0x7D

-- In verbose mode blanks, and comments up to the end of their line, do not count.
def skipBlanks (inComment : Bool) : List Char → List Char
  | [] => []
  | c :: rest =>
      if inComment then skipBlanks (c != '\n') rest
      else if Text.isBlank c then skipBlanks false rest
      else if c == '#' then skipBlanks true rest
      else c :: rest

def skip (verbose : Bool) (cs : List Char) : List Char :=
  if verbose then skipBlanks false cs else cs

-- The next character that counts, looking past blanks and the mark of one comment, but not past
-- the comment itself.
def lookPast (inComment : Bool) : List Char → Option Char
  | [] => none
  | c :: rest =>
      if Text.isBlank c then lookPast inComment rest
      else if c == '#' && !inComment then lookPast true rest
      else some c

def peek (verbose : Bool) (cs : List Char) : Option Char :=
  if verbose then lookPast false cs <|> cs.head? else cs.head?

-- Takes characters of a kind, at most so many, with blanks between and after them.
def takeSkipping (verbose : Bool) (isKind : Char → Bool) (count : Option Nat) (inComment : Bool) :
    List Char → List Char × List Char
  | [] => ([],[])
  | c :: rest =>
      if inComment then takeSkipping verbose isKind count (c != '\n') rest
      else if verbose && Text.isBlank c then takeSkipping verbose isKind count false rest
      else if verbose && c == '#' then takeSkipping verbose isKind count true rest
      else if count != some 0 && isKind c then
        let (taken,after) := takeSkipping verbose isKind (count.map (· - 1)) false rest
        (c :: taken,after)
      else ([],c :: rest)

def takeAll (verbose : Bool) (isKind : Char → Bool) (cs : List Char) : List Char × List Char :=
  takeSkipping verbose isKind none false cs

inductive Atom where
  | literal (l : Literal)
  | dot
  | position (p : Position)
  | charClass (c : CharClass)

def Atom.pattern : Atom → Pattern
  | .literal l => .literal l
  | .dot => .dot
  | .position p => .position p
  | .charClass c => .charClass c

-- In a class there are no positions.
def Atom.charClass? : Atom → Option CharClass
  | .literal l => some (.literal l)
  | .charClass c => some c
  | .dot => none
  | .position _ => none

def Atom.literal? : Atom → Option Literal
  | .literal l => some l
  | _ => none

def isHexDigit (c : Char) : Bool := (Text.hexValue? c).isSome

def hexChar? (digits : List Char) : Option Char :=
  let code := digits.foldl (fun n d => 16 * n + (Text.hexValue? d).getD 0) 0
  if digits.isEmpty || !Text.isScalar code then none else some (Char.ofNat code)

-- A character by its code point: in braces, or in a fixed number of digits.
def readHex (verbose : Bool) (count : Nat) (cs : List Char) : Option (Atom × List Char) :=
  match skip verbose cs with
  | [] => none
  | c :: rest =>
      if c == openBrace then do
        let rest := skip verbose rest
        match takeAll verbose isHexDigit rest with
        | (digits,d :: after) =>
            if d != closeBrace then none
            else
              let char ← hexChar? digits
              some (.literal { char },skip verbose after)
        | (_,[]) => none
      else do
        let (digits,after) := takeSkipping verbose isHexDigit (some count) false (c :: rest)
        if digits.length != count then none
        else
          let char ← hexChar? digits
          some (.literal { char,isByte := count == 2 },after)

def splitAt? (mark : List Char) : List Char → Option (List Char × List Char)
  | [] => none
  | c :: rest =>
      if mark.isPrefixOf (c :: rest) then some ([],(c :: rest).drop mark.length)
      else (splitAt? mark rest).map fun (before,after) => (c :: before,after)

-- A property in braces, with the sign before its value that counts first.
def propertyOf (negated : Bool) (text : List Char) : CharClass :=
  match splitAt? ['!','='] text <|> splitAt? [':'] text <|> splitAt? ['='] text with
  | some (name,value) => .property negated name (some value)
  | none => .property negated text none

def readProperty (verbose negated : Bool) (cs : List Char) : Option (Atom × List Char) :=
  match skip verbose cs with
  | [] => none
  | c :: rest =>
      if c == openBrace then
        let rest := skip verbose rest
        match takeAll verbose (fun d => d != closeBrace) rest with
        | (text,_ :: after) => some (.charClass (propertyOf negated text),after)
        | (_,[]) => none
      else if c == '\\' then none
      else some (.charClass (.property negated [c] none),skip verbose rest)

def isBoundaryChar (c : Char) : Bool :=
  c.isAlpha || c == '-'

-- After a word boundary a brace may open a special kind of it; what is no name is left as a
-- repetition.
def readBoundary (verbose : Bool) (cs : List Char) : Option (Atom × List Char) :=
  match cs with
  | [] => some (.position .wordBoundary,[])
  | c :: rest =>
      if c != openBrace then some (.position .wordBoundary,cs)
      else
        let rest := skip verbose rest
        match takeAll verbose isBoundaryChar rest with
        | ([],[]) => none
        | ([],_ :: _) => some (.position .wordBoundary,cs)
        | (_,[]) => none
        | (name,d :: after) =>
            if d != closeBrace then none
            else
              match String.ofList name with
              | "start" => some (.position .wordStart,after)
              | "end" => some (.position .wordEnd,after)
              | "start-half" => some (.position .wordStartHalf,after)
              | "end-half" => some (.position .wordEndHalf,after)
              | _ => none

def readEscape (verbose : Bool) : List Char → Option (Atom × List Char)
  | [] => none
  | c :: rest =>
      let special (code : Nat) := some (Atom.literal { char := Char.ofNat code },rest)
      let shorthand (negated : Bool) (kind : Shorthand) :=
        some (Atom.charClass (.shorthand negated kind),rest)
      match c with
      | 'x' => readHex verbose 2 rest
      | 'u' => readHex verbose 4 rest
      | 'U' => readHex verbose 8 rest
      | 'p' => readProperty verbose false rest
      | 'P' => readProperty verbose true rest
      | 'd' => shorthand false .digit
      | 'D' => shorthand true .digit
      | 's' => shorthand false .space
      | 'S' => shorthand true .space
      | 'w' => shorthand false .word
      | 'W' => shorthand true .word
      | 'a' => special 7
      | 'f' => special 12
      | 't' => special 9
      | 'n' => special 10
      | 'r' => special 13
      | 'v' => special 11
      | 'A' => some (.position .textStart,rest)
      | 'z' => some (.position .textEnd,rest)
      | 'b' => readBoundary verbose rest
      | 'B' => some (.position .notWordBoundary,rest)
      | '<' => some (.position .wordStart,rest)
      | '>' => some (.position .wordEnd,rest)
      | c => if isEscapable c then some (.literal { char := c },rest) else none

def readAsciiClass (cs : List Char) : Option (CharClass × List Char) :=
  match cs with
  | ':' :: rest =>
      let (negated,body) := match rest with
        | '^' :: more => (true,more)
        | more => (false,more)
      match splitAt? [':'] body with
      | some (name,']' :: after) =>
          (AsciiClass.ofName? (String.ofList name)).map fun kind => (.ascii negated kind,after)
      | _ => none
  | _ => none

def readClassAtom (verbose : Bool) : List Char → Option (Atom × List Char)
  | [] => none
  | '\\' :: rest => readEscape verbose rest
  | c :: rest => some (.literal { char := c },rest)

-- A member of a class or a range of characters. A dash before the closing bracket or before
-- another dash makes no range.
def readClassItem (verbose : Bool) (cs : List Char) : Option (CharClass × List Char) := do
  let (first,rest) ← readClassAtom verbose cs
  match skip verbose rest with
  | [] => none
  | '-' :: more =>
      if peek verbose more == some ']' || peek verbose more == some '-' then
        return (← first.charClass?,'-' :: more)
      else
        let (last,after) ← readClassAtom verbose (skip verbose more)
        let low ← first.literal?
        let high ← last.literal?
        if low.char ≤ high.char then some (.range low high,after) else none
  | rest => return (← first.charClass?,rest)

def literalClass (c : Char) : CharClass := .literal { char := c }

-- The front of a class after its bracket: a caret negates; then any dashes, and, if there were
-- none, a closing bracket stand for themselves.
def openClass (verbose : Bool) (cs : List Char) : Option (Bool × List CharClass × List Char) :=
  let start := skip verbose cs
  let (negated,body) := match start with
    | '^' :: rest => (true,skip verbose rest)
    | rest => (false,rest)
  let (dashes,rest) := takeAll verbose (· == '-') body
  match dashes,rest with
  | _,[] => none
  | [],']' :: rest =>
      let rest := skip verbose rest
      if rest.isEmpty then none else some (negated,[literalClass ']'],rest)
  | dashes,rest => some (negated,dashes.map literalClass,rest)

structure PendingOperation where
  operation : SetOperation
  left : CharClass

-- The right side is the union of the items, which are in reverse.
def PendingOperation.complete (pending : Option PendingOperation) (items : List CharClass) :
    CharClass :=
  let right := CharClass.ofItems items.reverse
  match pending with
  | none => right
  | some p => .combination p.operation p.left right

-- The rest of a class up to its closing bracket. The items read so far are in reverse. Each round
-- takes at least one character.
def readClass (verbose : Bool) :
    Nat → List CharClass → Option PendingOperation → List Char → Option (CharClass × List Char)
  | 0,_,_,_ => none
  | rounds + 1,items,pending,cs =>
      match skip verbose cs with
      | [] => none
      | '[' :: rest =>
          match readAsciiClass rest with
          | some (item,after) => readClass verbose rounds (item :: items) pending after
          | none => do
              let (negated,first,body) ← openClass verbose rest
              let (set,after) ← readClass verbose rounds first.reverse none body
              readClass verbose rounds (.bracketed negated set :: items) pending after
      | ']' :: rest => some (PendingOperation.complete pending items,rest)
      | '&' :: '&' :: rest =>
          readClass verbose rounds [] (some ⟨.intersection,PendingOperation.complete pending items⟩) rest
      | '-' :: '-' :: rest =>
          readClass verbose rounds [] (some ⟨.difference,PendingOperation.complete pending items⟩) rest
      | '~' :: '~' :: rest =>
          readClass verbose rounds [] (some ⟨.symmetricDifference,PendingOperation.complete pending items⟩) rest
      | cs => do
          let (item,after) ← readClassItem verbose cs
          readClass verbose rounds (item :: items) pending after

def readBracketed (verbose : Bool) (rounds : Nat) (cs : List Char) :
    Option (CharClass × List Char) := do
  let (negated,first,body) ← openClass verbose cs
  let (set,after) ← readClass verbose rounds first.reverse none body
  some (.bracketed negated set,after)

def isNameStart (c : Char) : Bool :=
  c == '_' || Text.isAlphabetic c

def isNameChar (c : Char) : Bool :=
  c == '_' || c == '.' || c == '[' || c == ']' || Text.isAlphanumeric c

-- The name of a group up to its closing angle bracket; a name is used once.
def readGroupName (names : List String) (cs : List Char) : Option (String × List Char) := do
  let (name,rest) ← splitAt? ['>'] cs
  let first ← name.head?
  let text := String.ofList name
  if isNameStart first && (name.drop 1).all isNameChar && !names.contains text then some (text,rest)
  else none

def flagOf? (c : Char) : Option Flag :=
  match c with
  | 'i' => some .caseInsensitive
  | 'm' => some .multiLine
  | 's' => some .dotMatchesNewLine
  | 'U' => some .swapGreed
  | 'u' => some .unicode
  | 'R' => some .crlf
  | 'x' => some .verbose
  | _ => none

-- The flags of a group up to `:` or `)`: each once, with at most one minus, which stands before a
-- flag. The result says which of the two ended them.
def readFlags (seen : List Char) (change : FlagChange) :
    List Char → Option (FlagChange × Char × List Char)
  | [] => none
  | c :: rest =>
      if c == ':' || c == ')' then
        if seen.head? == some '-' then none else some (change,c,rest)
      else if seen.contains c then none
      else if c == '-' then readFlags (c :: seen) change rest
      else
        match flagOf? c with
        | some flag => readFlags (c :: seen) (change ++ [(flag,!seen.contains '-')]) rest
        | none => none

-- How a group opens: as a setting that holds nothing, or as a group with a name if it has one.
inductive GroupOpening where
  | setting (change : FlagChange)
  | plain (change : FlagChange)
  | capture (name : Option String)

def readGroupOpening (names : List String) (cs : List Char) :
    Option (GroupOpening × List Char) :=
  let named (rest : List Char) :=
    (readGroupName names rest).map fun (name,after) => (GroupOpening.capture (some name),after)
  match cs with
  | '?' :: '=' :: _ => none
  | '?' :: '!' :: _ => none
  | '?' :: '<' :: '=' :: _ => none
  | '?' :: '<' :: '!' :: _ => none
  | '?' :: 'P' :: '<' :: rest => named rest
  | '?' :: '<' :: rest => named rest
  | '?' :: rest =>
      match readFlags [] [] rest with
      | none => none
      | some (change,')',after) => if change.isEmpty then none else some (.setting change,after)
      | some (change,_,after) => some (.plain change,after)
  | rest => some (.capture none,rest)

def readCount (verbose : Bool) (cs : List Char) : Option (Nat × List Char) :=
  let cs := cs.dropWhile Text.isBlank
  let (digits,rest) := takeAll verbose Char.isDigit cs
  let (_,rest) := takeAll verbose Text.isBlank rest
  let n := digits.foldl (fun n c => 10 * n + (c.toNat - '0'.toNat)) 0
  if digits.isEmpty || n > Word.max32 then none else some (n,rest)

def readClosingBrace : List Char → Option (List Char)
  | [] => none
  | c :: rest => if c == closeBrace then some rest else none

def readBounds (verbose : Bool) (cs : List Char) : Option (Nat × Option Nat × List Char) := do
  let (low,rest) ← readCount verbose (skip verbose cs)
  match rest with
  | ',' :: more =>
      let more := skip verbose more
      match readClosingBrace more with
      | some after => some (low,none,after)
      | none =>
          let (high,rest) ← readCount verbose more
          let after ← readClosingBrace rest
          if low ≤ high then some (low,some high,after) else none
  | rest =>
      let after ← readClosingBrace rest
      some (low,some low,after)

-- A question mark makes a repetition take as little as it can.
def readGreed : List Char → Bool × List Char
  | '?' :: rest => (false,rest)
  | rest => (true,rest)

-- Repeats the last item; there must be one, and it is no setting. The items are in reverse.
def repeatLast (low : Nat) (high : Option Nat) (greedy : Bool) : List Pattern → Option (List Pattern)
  | [] => none
  | .flags _ :: _ => none
  | item :: items => some (.repetition low high greedy item :: items)

structure Groups where
  captures : Nat := 0
  names : List String := []

def uncounted? (c : Char) : Option (Nat × Option Nat) :=
  match c with
  | '?' => some (0,some 1)
  | '*' => some (0,none)
  | '+' => some (1,none)
  | _ => none

-- The pattern of the alternatives and items read, which are in reverse.
def completed (alternatives items : List Pattern) : Pattern :=
  .ofAlternatives (.ofItems items.reverse :: alternatives).reverse

-- Reads alternatives up to the end of the pattern, or of the group that they stand in. The
-- alternatives and items read so far are in reverse. Each round takes at least one character.
def readAlternatives (nested : Bool) :
    Nat → Bool → Groups → List Pattern → List Pattern → List Char →
    Option (Pattern × Groups × List Char)
  | 0,_,_,_,_,_ => none
  | rounds + 1,verbose,groups,alternatives,items,cs =>
      let goOn (item : Pattern) (rest : List Char) :=
        readAlternatives nested rounds verbose groups alternatives (item :: items) rest
      match skip verbose cs with
      | [] => if nested then none else some (completed alternatives items,groups,[])
      | ')' :: rest => if nested then some (completed alternatives items,groups,rest) else none
      | '|' :: rest =>
          readAlternatives nested rounds verbose groups (.ofItems items.reverse :: alternatives) [] rest
      | '(' :: rest => do
          match ← readGroupOpening groups.names (skip verbose rest) with
          | (.setting change,after) =>
              readAlternatives nested rounds ((change.get? .verbose).getD verbose) groups alternatives
                (.flags change :: items) after
          | (.plain change,body) =>
              let (sub,groups,after) ←
                readAlternatives true rounds ((change.get? .verbose).getD verbose) groups [] [] body
              readAlternatives nested rounds verbose groups alternatives
                (.group (.plain change) sub :: items) after
          | (.capture name,body) =>
              let index := groups.captures + 1
              let (sub,groups,after) ←
                readAlternatives true rounds verbose
                  { captures := index,names := name.toList ++ groups.names } [] [] body
              readAlternatives nested rounds verbose groups alternatives
                (.group (.capture index) sub :: items) after
      | '[' :: rest => do
          let (set,after) ← readBracketed verbose rounds rest
          goOn (.charClass set) after
      | '\\' :: rest => do
          let (atom,after) ← readEscape verbose rest
          goOn atom.pattern after
      | '.' :: rest => goOn .dot rest
      | '^' :: rest => goOn (.position .lineStart) rest
      | '$' :: rest => goOn (.position .lineEnd) rest
      | c :: rest =>
          match uncounted? c with
          | some (low,high) => do
              let (greedy,after) := readGreed rest
              readAlternatives nested rounds verbose groups alternatives
                (← repeatLast low high greedy items) after
          | none =>
              if c == openBrace then do
                let (low,high,after) ← readBounds verbose rest
                let (greedy,after) := readGreed (skip verbose after)
                readAlternatives nested rounds verbose groups alternatives
                  (← repeatLast low high greedy items) after
              else goOn (.literal { char := c }) rest

def parse (text : String) : Option Pattern := do
  let (pattern,_,_) ← readAlternatives false (text.length + 1) false {} [] [] text.toList
  if pattern.depth ≤ maxDepth then some pattern else none

end OlapQuery.Regex
