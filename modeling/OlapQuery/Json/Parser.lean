import OlapQuery.Json.Number
import OlapQuery.Unicode.CodeSet

-- Reading JSON text in two passes, each one step per character or token: characters to tokens,
-- then tokens to a value with the open lists and objects on a stack. Nesting of 128 levels is
-- refused. What is read is then put in order: of two members with one name the later wins, and
-- members are listed in name order.

namespace OlapQuery.Json

inductive Token where
  | openArr
  | closeArr
  | openObj
  | closeObj
  | colon
  | comma
  | text (value : String)
  | value (value : Json)

-- What the characters read so far have begun. Characters are collected in reverse.
inductive Scan where
  | between
  | text (done : List Char)
  | escape (done : List Char)
  -- `left` hexadecimal digits of a code unit are still to come; `high` is the first half of a
  -- pair that the unit has to complete.
  | unit (done : List Char) (left : Nat) (code : Nat) (high : Option Nat)
  -- After the first half of a pair a backslash, then a `u`, must follow.
  | pair (done : List Char) (high : Nat) (slashSeen : Bool)
  | number (done : List Char)
  | word (done : List Char)

def isBlank (c : Char) : Bool :=
  c == ' ' || c == '\n' || c == '\r' || c == '\t'

def isNumberChar (c : Char) : Bool :=
  c.isDigit || c == '-' || c == '+' || c == '.' || c == 'e' || c == 'E'

def escapeValue? (c : Char) : Option Char :=
  match c with
  | '"' => some '"'
  | '\\' => some '\\'
  | '/' => some '/'
  | 'b' => some (Char.ofNat 8)
  | 'f' => some (Char.ofNat 12)
  | 'n' => some '\n'
  | 'r' => some '\r'
  | 't' => some '\t'
  | _ => none

def finishUnit (done : List Char) (code : Nat) : Option Nat → Option Scan
  | none =>
      if 0xD800 ≤ code ∧ code < 0xDC00 then some (.pair done code false)
      else if 0xDC00 ≤ code ∧ code < 0xE000 then none
      else some (.text (Char.ofNat code :: done))
  | some high =>
      if 0xDC00 ≤ code ∧ code < 0xE000 then
        some (.text (Char.ofNat (0x10000 + (high - 0xD800) * 0x400 + (code - 0xDC00)) :: done))
      else none

def wordToken? (done : List Char) : Option Token :=
  match String.ofList done.reverse with
  | "null" => some (.value .null)
  | "true" => some (.value (.bool true))
  | "false" => some (.value (.bool false))
  | _ => none

def beginToken (c : Char) : Option (List Token × Scan) :=
  match c with
  | '[' => some ([.openArr],.between)
  | ']' => some ([.closeArr],.between)
  | ':' => some ([.colon],.between)
  | ',' => some ([.comma],.between)
  | '"' => some ([],.text [])
  | c =>
      if c.toNat == 0x7B then some ([.openObj],.between)
      else if c.toNat == 0x7D then some ([.closeObj],.between)
      else if isBlank c then some ([],.between)
      else if c.isDigit || c == '-' then some ([],.number [c])
      else if c.isAlpha then some ([],.word [c])
      else none

def scanChar (scan : Scan) (c : Char) : Option (List Token × Scan) :=
  match scan with
  | .between => beginToken c
  | .text done =>
      if c == '"' then some ([.text (String.ofList done.reverse)],.between)
      else if c == '\\' then some ([],.escape done)
      else if c.toNat < 0x20 then none
      else some ([],.text (c :: done))
  | .escape done =>
      if c == 'u' then some ([],.unit done 4 0 none)
      else (escapeValue? c).map fun value => ([],.text (value :: done))
  | .unit done left code high => do
      let digit ← Text.hexValue? c
      let code := 16 * code + digit
      if left ≤ 1 then (finishUnit done code high).map (([],·))
      else some ([],.unit done (left - 1) code high)
  | .pair done high slashSeen =>
      if !slashSeen && c == '\\' then some ([],.pair done high true)
      else if slashSeen && c == 'u' then some ([],.unit done 4 0 (some high))
      else none
  | .number done =>
      if isNumberChar c then some ([],.number (c :: done))
      else do
        let number ← ofNumberText done.reverse
        let (tokens,next) ← beginToken c
        some (.value number :: tokens,next)
  | .word done =>
      if c.isAlpha then some ([],.word (c :: done))
      else do
        let word ← wordToken? done
        let (tokens,next) ← beginToken c
        some (word :: tokens,next)

def finishScan : Scan → Option (List Token)
  | .between => some []
  | .number done => (ofNumberText done.reverse).map fun number => [.value number]
  | .word done => (wordToken? done).map fun word => [word]
  | _ => none

def scanAll (scan : Scan) (tokens : List Token) : List Char → Option (List Token)
  | [] => (finishScan scan).map fun last => (last.reverse ++ tokens).reverse
  | c :: rest =>
      match scanChar scan c with
      | none => none
      | some (more,next) => scanAll next (more.reverse ++ tokens) rest

inductive Frame where
  | items (done : List Json)
  | members (done : List (String × Json)) (name : String)

inductive Reading where
  | value (stack : List Frame)
  | itemOrClose (stack : List Frame)
  | nameOrClose (stack : List Frame)
  | name (done : List (String × Json)) (stack : List Frame)
  | colon (done : List (String × Json)) (name : String) (stack : List Frame)
  | moreItems (done : List Json) (stack : List Frame)
  | moreMembers (done : List (String × Json)) (stack : List Frame)
  | done (value : Json)

def maxDepth : Nat := 127

def place (value : Json) : List Frame → Reading
  | [] => .done value
  | .items done :: stack => .moreItems (value :: done) stack
  | .members done name :: stack => .moreMembers ((name,value) :: done) stack

def beginValue (stack : List Frame) : Token → Option Reading
  | .value v => some (place v stack)
  | .text s => some (place (.str s) stack)
  | .openArr => if stack.length < maxDepth then some (.itemOrClose stack) else none
  | .openObj => if stack.length < maxDepth then some (.nameOrClose stack) else none
  | _ => none

def readToken (reading : Reading) (token : Token) : Option Reading :=
  match reading,token with
  | .value stack,token => beginValue stack token
  | .itemOrClose stack,.closeArr => some (place (.arr []) stack)
  | .itemOrClose stack,token => beginValue (.items [] :: stack) token
  | .nameOrClose stack,.closeObj => some (place (.obj []) stack)
  | .nameOrClose stack,.text name => some (.colon [] name stack)
  | .name done stack,.text name => some (.colon done name stack)
  | .colon done name stack,.colon => some (.value (.members done name :: stack))
  | .moreItems done stack,.comma => some (.value (.items done :: stack))
  | .moreItems done stack,.closeArr => some (place (.arr done.reverse) stack)
  | .moreMembers done stack,.comma => some (.name done stack)
  | .moreMembers done stack,.closeObj => some (place (.obj done.reverse) stack)
  | _,_ => none

def readTokens (reading : Reading) : List Token → Option Json
  | [] => match reading with
      | .done value => some value
      | _ => none
  | token :: rest =>
      match readToken reading token with
      | none => none
      | some next => readTokens next rest

-- The value with its members as they are written, also those of one name.
def parseAsWritten? (text : String) : Option Json := do
  let tokens ← scanAll .between [] text.toList
  readTokens (.value []) tokens

mutual
def ordered : Json → Json
  | .arr items => .arr (orderedItems items)
  | .obj fields => .obj (Table.ofList (orderedFields fields))
  | other => other

def orderedItems : List Json → List Json
  | [] => []
  | j :: rest => ordered j :: orderedItems rest

def orderedFields : List (String × Json) → List (String × Json)
  | [] => []
  | (name,j) :: rest => (name,ordered j) :: orderedFields rest
end

def parse? (text : String) : Option Json :=
  (parseAsWritten? text).map ordered

end OlapQuery.Json
