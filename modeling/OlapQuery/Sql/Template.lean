-- SQL fragments with slots for an operand, written `$$`. A template is checked when it is read:
-- it has at least one slot, no other `$`, and balanced parentheses outside single quotes.

namespace OlapQuery.Sql

inductive TemplateError where
  | missingOperand (source : String)
  | strayDollar (source : String) (position : Nat)
  | unbalanced (source : String)
  | invalidDuration (text : String)
  deriving DecidableEq, Repr

def TemplateError.message : TemplateError → String
  | .missingOperand source => "Template has no `$$` operand slot: " ++ source
  | .strayDollar source position =>
      "Template has a stray `$` at byte " ++ toString position ++ ": " ++ source
  | .unbalanced source => "Template has unbalanced parentheses: " ++ source
  | .invalidDuration text => "Bucketing table key is not an ISO-8601 duration: " ++ text

def apostrophe : Char := Char.ofNat 39

inductive Segment where
  | text (content : String)
  | operand
  deriving DecidableEq, Repr

structure Template where
  segments : List Segment
  deriving DecidableEq, Repr

namespace Template

-- What can be wrong with the text of a template, before it is named in an error.
inductive Fault where
  | stray (position : Nat)
  | unbalanced
  deriving DecidableEq, Repr

-- The pending text as a segment in front of others; empty text makes none.
def flush (pending : List Char) (segments : List Segment) : List Segment :=
  if pending.isEmpty then segments else .text (String.ofList pending.reverse) :: segments

-- Reads on at a byte position, inside `depth` parentheses. Pending text is in reverse.
def scan (position depth : Nat) (quoted : Bool) (pending : List Char) :
    List Char → Except Fault (List Segment)
  | [] => if depth == 0 && !quoted then .ok (flush pending []) else .error .unbalanced
  | '$' :: '$' :: rest => do
      let segments ← scan (position + 2) depth quoted [] rest
      return flush pending (.operand :: segments)
  | c :: rest =>
      let next := position + c.utf8Size
      if c == '$' then .error (.stray position)
      else if c == apostrophe then scan next depth (!quoted) (c :: pending) rest
      else if c == '(' && !quoted then scan next (depth + 1) quoted (c :: pending) rest
      else if c == ')' && !quoted then
        match depth with
        | 0 => .error .unbalanced
        | depth + 1 => scan next depth quoted (c :: pending) rest
      else scan next depth quoted (c :: pending) rest

def parse (source : String) : Except TemplateError Template :=
  match scan 0 0 false [] source.toList with
  | .error (.stray position) => .error (.strayDollar source position)
  | .error .unbalanced => .error (.unbalanced source)
  | .ok segments =>
      if segments.contains .operand then .ok { segments } else .error (.missingOperand source)

def Segment.fill (operand : String) : Segment → String
  | .text content => content
  | .operand => operand

def render (t : Template) (operand : String) : String :=
  String.join (t.segments.map (Segment.fill operand))

def slots (t : Template) : Nat :=
  t.segments.count .operand

def source (t : Template) : String :=
  t.render "$$"

end Template

end OlapQuery.Sql
