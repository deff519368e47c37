import OlapQuery.Toml.Scalar

-- TOML text as tokens, one step per character. Comments are dropped. Line ends are kept, since
-- they end a key with its value, and so are blanks, since none may stand between the two brackets
-- of the header of a list.

namespace OlapQuery.Toml

inductive Token where
  | newline
  | blank
  | equals
  | comma
  | openBracket
  | closeBracket
  | openBrace
  | closeBrace
  -- Keys and values without quotes; the points between keys are part of it.
  | bare (text : List Char)
  | text (value : String) (block : Bool)
  deriving DecidableEq, Repr

inductive Quote where
  | basic
  | literal
  deriving DecidableEq, Repr

-- What the characters read so far have begun. Characters are collected in reverse.
inductive Scan where
  | between
  | comment
  -- After a carriage return a line feed must follow.
  | carriage
  | bare (done : List Char)
  | gap (done : List Char)
  -- One quote, or two, that may be the start of three.
  | opened (quote : Quote) (second : Bool)
  | line (quote : Quote) (done : List Char)
  -- A text that spans lines, with the number of quotes just read. The first line end is dropped.
  | block (quote : Quote) (done : List Char) (quotes : Nat) (fresh : Bool)
  -- A line end is kept as it is written, so the carriage return is part of the text.
  | blockCarriage (quote : Quote) (done : List Char) (fresh : Bool)
  | escape (block : Bool) (done : List Char)
  | code (block : Bool) (done : List Char) (left value : Nat)
  -- A backslash at the end of a line drops it, and all blanks and line ends that follow.
  | continued (done : List Char) (lineEnded : Bool)
  | continuedCarriage (done : List Char)

def apostrophe : Char := Char.ofNat 39

def Quote.mark : Quote → Char
  | .basic => '"'
  | .literal => apostrophe

def isBareChar (c : Char) : Bool :=
  c.isAlphanum || c == '_' || c == '-' || c == '+' || c == ':' || c == '.'

def isControl (c : Char) : Bool :=
  (c.toNat < 0x20 && c != '\t') || c.toNat == 0x7F

def isDateText (cs : List Char) : Bool :=
  match takeDate cs with
  | some (_,[]) => true
  | _ => false

def textToken (done : List Char) (block : Bool) : Token :=
  .text (String.ofList done.reverse) block

def beginToken (c : Char) : Option (List Token × Scan) :=
  match c with
  | '\n' => some ([.newline],.between)
  | '\r' => some ([],.carriage)
  | ' ' => some ([.blank],.between)
  | '\t' => some ([.blank],.between)
  | '#' => some ([],.comment)
  | '=' => some ([.equals],.between)
  | ',' => some ([.comma],.between)
  | '[' => some ([.openBracket],.between)
  | ']' => some ([.closeBracket],.between)
  | '"' => some ([],.opened .basic false)
  | c =>
      if c == apostrophe then some ([],.opened .literal false)
      else if c.toNat == 0x7B then some ([.openBrace],.between)
      else if c.toNat == 0x7D then some ([.closeBrace],.between)
      else if isBareChar c then some ([],.bare [c])
      else none

def followedBy (done : List Token) (c : Char) : Option (List Token × Scan) :=
  (beginToken c).map fun (tokens,next) => (done ++ tokens,next)

def resumed (block : Bool) (done : List Char) : Scan :=
  if block then .block .basic done 0 false else .line .basic done

def escapeValue? (c : Char) : Option Char :=
  match c with
  | '"' => some '"'
  | '\\' => some '\\'
  | 'b' => some (Char.ofNat 8)
  | 'e' => some (Char.ofNat 27)
  | 'f' => some (Char.ofNat 12)
  | 'n' => some '\n'
  | 'r' => some '\r'
  | 't' => some '\t'
  | _ => none

def escaped (block : Bool) (done : List Char) (c : Char) : Option Scan :=
  match c with
  | 'x' => some (.code block done 2 0)
  | 'u' => some (.code block done 4 0)
  | 'U' => some (.code block done 8 0)
  | c =>
      if block && c == '\r' then some (.continuedCarriage done)
      else if block && (c == ' ' || c == '\t' || c == '\n') then
        some (.continued done (c == '\n'))
      else (escapeValue? c).map fun value => resumed block (value :: done)

def charOfCode? (code : Nat) : Option Char :=
  if Text.isScalar code then some (Char.ofNat code) else none

def blockChar (quote : Quote) (done : List Char) (fresh : Bool) (c : Char) : Option Scan :=
  if c == '\n' then some (.block quote (if fresh then done else c :: done) 0 false)
  else if c == '\r' then some (.blockCarriage quote done fresh)
  else if c == '\\' && quote == .basic then some (.escape true done)
  else if isControl c then none
  else some (.block quote (c :: done) 0 false)

def scanChar (scan : Scan) (c : Char) : Option (List Token × Scan) :=
  match scan with
  | .between => beginToken c
  | .comment =>
      if c == '\n' || c == '\r' then beginToken c
      else if isControl c then none
      else some ([],.comment)
  | .carriage => if c == '\n' then some ([.newline],.between) else none
  | .bare done =>
      if isBareChar c then some ([],.bare (c :: done))
      else if c == ' ' && isDateText done.reverse then some ([],.gap done)
      else followedBy [.bare done.reverse] c
  | .gap done =>
      if c.isDigit then some ([],.bare (c :: ' ' :: done))
      else followedBy [.bare done.reverse,.blank] c
  | .opened quote second =>
      if c == quote.mark then
        some ([],if second then .block quote [] 0 true else .opened quote true)
      else if second then followedBy [.text "" false] c
      else if c == '\\' && quote == .basic then some ([],.escape false [])
      else if isControl c then none
      else some ([],.line quote [c])
  | .line quote done =>
      if c == quote.mark then some ([textToken done false],.between)
      else if c == '\\' && quote == .basic then some ([],.escape false done)
      else if isControl c then none
      else some ([],.line quote (c :: done))
  | .block quote done quotes fresh =>
      if c == quote.mark then
        if quotes == 4 then
          some ([textToken (quote.mark :: quote.mark :: done) true],.between)
        else some ([],.block quote done (quotes + 1) false)
      else if 3 ≤ quotes then
        followedBy [textToken (List.replicate (quotes - 3) quote.mark ++ done) true] c
      else (blockChar quote (List.replicate quotes quote.mark ++ done) fresh c).map (([],·))
  | .blockCarriage quote done fresh =>
      if c == '\n' then
        some ([],.block quote (if fresh then done else c :: '\r' :: done) 0 false)
      else none
  | .escape block done => (escaped block done c).map (([],·))
  | .code block done left value => do
      let value := 16 * value + (← Text.hexValue? c)
      if left ≤ 1 then some ([],resumed block ((← charOfCode? value) :: done))
      else some ([],.code block done (left - 1) value)
  | .continued done lineEnded =>
      if c == ' ' || c == '\t' then some ([],.continued done lineEnded)
      else if c == '\r' then some ([],.continuedCarriage done)
      else if c == '\n' then some ([],.continued done true)
      else if !lineEnded then none
      else if c == '"' then some ([],.block .basic done 1 false)
      else (blockChar .basic done false c).map (([],·))
  | .continuedCarriage done => if c == '\n' then some ([],.continued done true) else none

def finishScan : Scan → Option (List Token)
  | .between => some []
  | .comment => some []
  | .bare done => some [.bare done.reverse]
  | .gap done => some [.bare done.reverse,.blank]
  | .opened _ true => some [.text "" false]
  | .block quote done quotes _ =>
      if 3 ≤ quotes then some [textToken (List.replicate (quotes - 3) quote.mark ++ done) true]
      else none
  | _ => none

-- Tokens are collected in reverse.
def scanAll (scan : Scan) (tokens : List Token) : List Char → Option (List Token)
  | [] => (finishScan scan).map fun last => (last.reverse ++ tokens).reverse
  | c :: rest =>
      match scanChar scan c with
      | none => none
      | some (more,next) => scanAll next (more.reverse ++ tokens) rest

-- A byte order mark at the start is no part of the text.
def tokens? (text : String) : Option (List Token) :=
  match text.toList with
  | c :: rest => scanAll .between [] (if c.toNat == 0xFEFF then rest else c :: rest)
  | [] => some []

end OlapQuery.Toml
