import OlapQuery.Toml.Document
import OlapQuery.Toml.Token

-- Reading a TOML document from its tokens, with the lists and inline tables that are still open
-- on a stack. The result is the JSON object of the document.

namespace OlapQuery.Toml

-- What waits for a value, with what it holds so far; items are in reverse.
inductive Frame where
  | entry (path : List String)
  | items (done : List Json)
  | member (done : Entries) (path : List String)

inductive KeyPlace where
  | header
  | listHeader
  | entry
  | member (done : Entries) (stack : List Frame)

-- What may come next. Paths are in reverse while they are read.
inductive Expected where
  | line
  | lineEnd
  | headerStart
  | keyPart (place : KeyPlace) (path : List String)
  | keyRest (place : KeyPlace) (path : List String)
  | secondBracket (path : List String)
  -- The key of a member is complete, since a line ended after it.
  | memberEquals (done : Entries) (stack : List Frame) (path : List String)
  | value (stack : List Frame)
  | itemOrClose (done : List Json) (stack : List Frame)
  | commaInList (done : List Json) (stack : List Frame)
  | memberOrClose (done : Entries) (stack : List Frame)
  | commaInTable (done : Entries) (stack : List Frame)

structure Reading where
  document : Document := {}
  expected : Expected := .line

-- The most lists and inline tables that may be open at once, and the most parts of a key.
def maxDepth : Nat := 80

def isKeyChar (c : Char) : Bool :=
  c.isAlphanum || c == '_' || c == '-'

def keyPieces (word : List Char) : List Char → List (Option String)
  | [] => if word.isEmpty then [] else [some (String.ofList word.reverse)]
  | c :: rest =>
      if c == '.' then
        (if word.isEmpty then [] else [some (String.ofList word.reverse)])
          ++ none :: keyPieces [] rest
      else keyPieces (c :: word) rest

def keyStep (expected : Expected) (piece : Option String) : Option Expected :=
  match expected,piece with
  | .keyPart place path,some name =>
      if path.length < maxDepth then some (.keyRest place (name :: path)) else none
  | .keyRest place path,none => some (.keyPart place path)
  | _,_ => none

def readKey (expected : Expected) (token : Token) : Option Expected :=
  match token with
  | .bare text =>
      if text.all (fun c => isKeyChar c || c == '.') then
        (keyPieces [] text).foldlM keyStep expected
      else none
  | .text name false => keyStep expected (some name)
  | _ => none

def place (r : Reading) (value : Json) : List Frame → Option Reading
  | [] => none
  | .entry path :: _ =>
      (r.document.assign path value).map fun document => { document,expected := .lineEnd }
  | .items done :: stack => some { r with expected := .commaInList (value :: done) stack }
  | .member done path :: stack =>
      (done.assign path value).map fun done => { r with expected := .commaInTable done stack }

-- Besides the lists and inline tables that are open, the stack holds the key of the line.
def readValue (r : Reading) (stack : List Frame) : Token → Option Reading
  | .bare text => do place r (← scalar? text) stack
  | .text value _ => place r (.str value) stack
  | .openBracket =>
      if stack.length ≤ maxDepth then some { r with expected := .itemOrClose [] stack } else none
  | .openBrace =>
      if stack.length ≤ maxDepth then some { r with expected := .memberOrClose [] stack } else none
  | _ => none

def endKey (r : Reading) (place : KeyPlace) (path : List String) (token : Token) :
    Option Reading :=
  match place,token with
  | .entry,.equals => some { r with expected := .value [.entry path.reverse] }
  | .member done stack,.equals =>
      some { r with expected := .value (.member done path.reverse :: stack) }
  | .member done stack,.newline => some { r with expected := .memberEquals done stack path }
  | .header,.closeBracket =>
      (r.document.declare path.reverse).map fun document => { document,expected := .lineEnd }
  | .listHeader,.closeBracket => some { r with expected := .secondBracket path }
  | place,token =>
      (readKey (.keyRest place path) token).map fun expected => { r with expected }

def readToken (r : Reading) (token : Token) : Option Reading :=
  let key (expected : Expected) : Option Reading :=
    (readKey expected token).map fun expected => { r with expected }
  match r.expected,token with
  | .headerStart,.blank => some { r with expected := .keyPart .header [] }
  | .secondBracket _,.blank => none
  | _,.blank => some r
  | .line,.newline => some r
  | .line,.openBracket => some { r with expected := .headerStart }
  | .line,_ => key (.keyPart .entry [])
  | .lineEnd,.newline => some { r with expected := .line }
  | .lineEnd,_ => none
  | .headerStart,.openBracket => some { r with expected := .keyPart .listHeader [] }
  | .headerStart,_ => key (.keyPart .header [])
  | .keyPart place path,_ => key (.keyPart place path)
  | .keyRest place path,token => endKey r place path token
  | .secondBracket path,.closeBracket =>
      (r.document.declareNext path.reverse).map fun document => { document,expected := .lineEnd }
  | .secondBracket _,_ => none
  | .memberEquals _ _ _,.newline => some r
  | .memberEquals done stack path,.equals =>
      some { r with expected := .value (.member done path.reverse :: stack) }
  | .memberEquals _ _ _,_ => none
  | .value (.member _ _ :: _),.newline => some r
  | .value stack,token => readValue r stack token
  | .itemOrClose _ _,.newline => some r
  | .itemOrClose done stack,.closeBracket => place r (.arr done.reverse) stack
  | .itemOrClose done stack,token => readValue r (.items done :: stack) token
  | .commaInList _ _,.newline => some r
  | .commaInList done stack,.comma => some { r with expected := .itemOrClose done stack }
  | .commaInList done stack,.closeBracket => place r (.arr done.reverse) stack
  | .commaInList _ _,_ => none
  | .memberOrClose _ _,.newline => some r
  | .memberOrClose done stack,.closeBrace => place r (.obj (entriesJson done)) stack
  | .memberOrClose done stack,_ => key (.keyPart (.member done stack) [])
  | .commaInTable _ _,.newline => some r
  | .commaInTable done stack,.comma => some { r with expected := .memberOrClose done stack }
  | .commaInTable done stack,.closeBrace => place r (.obj (entriesJson done)) stack
  | .commaInTable _ _,_ => none

def parse? (text : String) : Option Json := do
  let reading ← (← tokens? text).foldlM readToken {}
  match reading.expected with
  | .line => some reading.document.toJson
  | .lineEnd => some reading.document.toJson
  | _ => none

end OlapQuery.Toml
