import OlapQuery.Druid.Script
import OlapQuery.Proofs.NumberTexts

-- JavaScript expressions as an engine reads them: names, numbers, texts, calls, members, the
-- signs `!` and `-`, and operators, of which those of a higher level bind tighter and those of one
-- level associate to the left. Of several punctuators that a text could start with, the longest
-- is read.

namespace OlapQuery.Druid.Script

inductive Operator where
  | or
  | and
  | is
  | differs
  | less
  | atMost
  | greater
  | atLeast
  | add
  | subtract
  | multiply
  | divide
  deriving DecidableEq, Repr

namespace Operator

def text : Operator → List Char
  | .or => ['|','|']
  | .and => ['&','&']
  | .is => ['=','=','=']
  | .differs => ['!','=']
  | .less => ['<']
  | .atMost => ['<','=']
  | .greater => ['>']
  | .atLeast => ['>','=']
  | .add => ['+']
  | .subtract => ['-']
  | .multiply => ['*']
  | .divide => ['/']

def level : Operator → Nat
  | .or => 1
  | .and => 2
  | .is => 3
  | .differs => 3
  | .less => 4
  | .atMost => 4
  | .greater => 4
  | .atLeast => 4
  | .add => 5
  | .subtract => 5
  | .multiply => 6
  | .divide => 6

end Operator

inductive Sign where
  | not
  | minus
  deriving DecidableEq, Repr

inductive Constant where
  | boolean (b : Bool)
  | null
  | nan
  | math
  | regExp
  deriving DecidableEq, Repr

inductive Atom where
  | name (text : List Char)
  | numeral (text : List Char)
  | text (content : List Char)
  | constant (c : Constant)
  -- The list without elements.
  | list
  deriving DecidableEq, Repr

inductive Tree where
  | atom (a : Atom)
  | group (t : Tree)
  | signed (s : Sign) (t : Tree)
  | binary (op : Operator) (a b : Tree)
  | choice (condition a b : Tree)
  | member (t : Tree) (name : List Char)
  | index (t place : Tree)
  -- A function that waits for more arguments, and its call once it has them.
  | argument (f a : Tree)
  | call (f : Tree)
  deriving DecidableEq, Repr

-- Signs bind tighter than operators, and nothing comes between the parts of all else.
def Tree.level : Tree → Nat
  | .binary op _ _ => op.level
  | .signed _ _ => 7
  | _ => 8

-- What waits for an operand that is still read.
inductive Hole where
  | left (t : Tree) (op : Operator)
  | sign (s : Sign)
  deriving DecidableEq, Repr

namespace Hole

def level : Hole → Nat
  | .left _ op => op.level
  | .sign _ => 7

def fill : Hole → Tree → Tree
  | .left t op,u => .binary op t u
  | .sign s,u => .signed s u

end Hole

-- Fills the holes that bind at least as tightly as an operator that follows.
def reduce (level : Nat) : List Hole → Tree → List Hole × Tree
  | [],t => ([],t)
  | h :: holes,t => if level ≤ h.level then reduce level holes (h.fill t) else (h :: holes,t)

def close (holes : List Hole) (t : Tree) : Tree :=
  (reduce 0 holes t).2

inductive Frame where
  | group (holes : List Hole)
  | call (f : Tree) (holes : List Hole)
  | index (t : Tree) (holes : List Hole)
  | chosen (condition : Tree) (holes : List Hole)
  | otherwise (condition a : Tree) (holes : List Hole)
  deriving DecidableEq, Repr

inductive Mark where
  | opening
  | closing
  | comma
  | dot
  | bracket
  | unbracket
  | question
  | colon
  | not
  | operator (op : Operator)
  deriving DecidableEq, Repr

namespace Mark

def text : Mark → List Char
  | .opening => ['(']
  | .closing => [')']
  | .comma => [',']
  | .dot => ['.']
  | .bracket => ['[']
  | .unbracket => [']']
  | .question => ['?']
  | .colon => [':']
  | .not => ['!']
  | .operator op => op.text

def all : List Mark :=
  [.opening,.closing,.comma,.dot,.bracket,.unbracket,.question,.colon,.not,.operator .or,
    .operator .and,.operator .is,.operator .differs,.operator .less,.operator .atMost,
    .operator .greater,.operator .atLeast,.operator .add,.operator .subtract,
    .operator .multiply,.operator .divide]

def ofText? (text : List Char) : Option Mark :=
  all.find? fun m => m.text == text

theorem listed (m : Mark) : m ∈ all := by
  cases m with
  | operator op => cases op <;> decide
  | _ => decide

theorem ofText_text (m : Mark) : ofText? m.text = some m := by
  cases m with
  | operator op => cases op <;> rfl
  | _ => rfl

end Mark

-- Punctuators of the language that expressions of this kind do not use, and comments.
def unused : List (List Char) :=
  ["--","++","=","==","!==","&","|","^","~","%","**","<<",">>",">>>","??","?.","=>",
    "+=","-=","*=","/=","%=","**=","<<=",">>=",">>>=","&=","|=","^=","&&=","||=","??=",
    ";","...","\x7b","\x7d","//","/*"].map String.toList

def punctuators : List (List Char) :=
  Mark.all.map Mark.text ++ unused

inductive Lexeme where
  | word (text : List Char)
  | numeral (text : List Char)
  | text (content : List Char)
  | mark (m : Mark)
  | unknown
  deriving DecidableEq, Repr

def constants : List (List Char × Constant) :=
  [("true".toList,.boolean true),("false".toList,.boolean false),("null".toList,.null),
    ("NaN".toList,.nan),("Math".toList,.math),("RegExp".toList,.regExp)]

-- Words that are no names.
def reserved : List (List Char) :=
  ["await","break","case","catch","class","const","continue","debugger","default","delete",
    "do","else","enum","export","extends","finally","for","function","if","implements",
    "import","in","instanceof","interface","let","new","package","private","protected",
    "public","return","static","super","switch","this","throw","try","typeof","var","void",
    "while","with","yield"].map String.toList

def Atom.ofWord? (word : List Char) : Option Atom :=
  match constants.lookup word with
  | some c => some (.constant c)
  | none => if reserved.contains word then none else some (.name word)

inductive State where
  | want (holes : List Hole) (outer : List Frame)
  | array (holes : List Hole) (outer : List Frame)
  | dot (holes : List Hole) (t : Tree) (outer : List Frame)
  | done (holes : List Hole) (t : Tree) (outer : List Frame)
  deriving DecidableEq, Repr

namespace State

def step : State → Lexeme → Option State
  | .want holes outer,.word w => (Atom.ofWord? w).map fun a => .done holes (.atom a) outer
  | .want holes outer,.numeral w => some (.done holes (.atom (.numeral w)) outer)
  | .want holes outer,.text w => some (.done holes (.atom (.text w)) outer)
  | .want holes outer,.mark .opening => some (.want [] (.group holes :: outer))
  | .want holes outer,.mark .bracket => some (.array holes outer)
  | .want holes outer,.mark .not => some (.want (.sign .not :: holes) outer)
  | .want holes outer,.mark (.operator .subtract) => some (.want (.sign .minus :: holes) outer)
  | .want [] (.call f holes :: outer),.mark .closing => some (.done holes (.call f) outer)
  | .array holes outer,.mark .unbracket => some (.done holes (.atom .list) outer)
  | .dot holes t outer,.word w => some (.done holes (.member t w) outer)
  | .done holes t outer,.mark (.operator op) =>
      let (left,u) := reduce op.level holes t
      some (.want (.left u op :: left) outer)
  | .done holes t outer,.mark .dot => some (.dot holes t outer)
  | .done holes t outer,.mark .opening => some (.want [] (.call t holes :: outer))
  | .done holes t outer,.mark .bracket => some (.want [] (.index t holes :: outer))
  | .done holes t (.call f left :: outer),.mark .comma =>
      some (.want [] (.call (.argument f (close holes t)) left :: outer))
  | .done holes t (.call f left :: outer),.mark .closing =>
      some (.done left (.call (.argument f (close holes t))) outer)
  | .done holes t (.group left :: outer),.mark .closing =>
      some (.done left (.group (close holes t)) outer)
  | .done holes t (.index u left :: outer),.mark .unbracket =>
      some (.done left (.index u (close holes t)) outer)
  | .done holes t (.group left :: outer),.mark .question =>
      some (.want [] (.chosen (close holes t) left :: outer))
  | .done holes t (.chosen c left :: outer),.mark .colon =>
      some (.want [] (.otherwise c (close holes t) left :: outer))
  | .done holes t (.otherwise c a left :: outer),.mark .closing =>
      some (.done left (.choice c a (close holes t)) outer)
  | _,_ => none

def run (s : State) : List Lexeme → Option State
  | [] => some s
  | x :: rest => (s.step x).bind (run · rest)

def finish : State → Option Tree
  | .done holes t [] => some (close holes t)
  | _ => none

end State

def isWordStart (c : Char) : Bool :=
  c.isAlpha || c == '_' || c == '$'

def isWordPart (c : Char) : Bool :=
  isWordStart c || c.isDigit

-- Where a reader of characters stands, with what it has read of a lexeme.
inductive Scan where
  | outside
  | word (read : List Char)
  | numeral (read : List Char)
  | text (quote : Char) (read : List Char)
  | escape (quote : Char) (read : List Char)
  -- The digits of a character that is written as its code.
  | code (quote : Char) (read : List Char) (digits : List Nat)
  | punctuator (read : List Char)

namespace Scan

def enter (c : Char) : Scan :=
  if isWordStart c then .word [c]
  else if c.isDigit then .numeral [c]
  else if c == '"' || c == '\'' then .text c []
  else if c.isWhitespace then .outside
  else .punctuator [c]

def lexeme (punctuator : List Char) : Lexeme :=
  match Mark.ofText? punctuator with
  | some m => .mark m
  | none => .unknown

def inNumeral (read : List Char) (c : Char) : Bool :=
  c.isDigit || c == '.' || c == 'e' || (c == '-' && read.getLast? == some 'e')

def escapes : List (Char × Char) :=
  [('n','\n'),('r','\r'),('t','\t'),('b','\x08'),('f','\x0c'),('"','"'),('\'','\''),
    ('\\','\\'),('/','/')]

def advance (c : Char) : Scan → List Lexeme × Scan
  | .outside => ([],enter c)
  | .word read => if isWordPart c then ([],.word (read ++ [c])) else ([.word read],enter c)
  | .numeral read =>
      if inNumeral read c then ([],.numeral (read ++ [c])) else ([.numeral read],enter c)
  | .punctuator read =>
      if punctuators.contains (read ++ [c]) then ([],.punctuator (read ++ [c]))
      else ([lexeme read],enter c)
  | .text quote read =>
      if c == quote then ([.text read],.outside)
      else if c == '\\' then ([],.escape quote read)
      else if c == '\n' || c == '\r' then ([.unknown],.outside)
      else ([],.text quote (read ++ [c]))
  | .escape quote read =>
      if c == 'u' then ([],.code quote read [])
      else match escapes.lookup c with
        | some d => ([],.text quote (read ++ [d]))
        | none => ([.unknown],.outside)
  | .code quote read digits =>
      match Text.hexValue? c with
      | none => ([.unknown],.outside)
      | some d =>
          if digits.length == 3 then
            ([],.text quote (read ++ [Char.ofNat ((digits ++ [d]).foldl (16 * · + ·) 0)]))
          else ([],.code quote read (digits ++ [d]))

-- The end of the text; it may not be inside quotes.
def finish : Scan → Option (List Lexeme)
  | .outside => some []
  | .word read => some [.word read]
  | .numeral read => some [.numeral read]
  | .punctuator read => some [lexeme read]
  | _ => none

end Scan

def readFrom (s : State) (scan : Scan) : List Char → Option Tree
  | [] => scan.finish.bind fun last => (s.run last).bind State.finish
  | c :: rest => (s.run (scan.advance c).1).bind fun next => readFrom next (scan.advance c).2 rest

def read (text : String) : Option Tree :=
  readFrom (.want [] []) .outside text.toList

example : read "(!(''+d).indexOf(\"a\")>-1)" = some (.group (.binary .greater
    (.signed .not (.call (.argument (.member (.group (.binary .add (.atom (.text []))
      (.atom (.name ['d'])))) "indexOf".toList) (.atom (.text ['a'])))))
    (.signed .minus (.atom (.numeral ['1']))))) := by
  decide +kernel

section Lexemes

variable {s : State} {rest : List Char}

theorem readFrom_lexeme {scan : Scan} {x : Lexeme} (ends : scan.finish = some [x])
    (leaves : ∀ c ∈ rest.head?, scan.advance c = ([x],Scan.enter c)) :
    readFrom s scan rest = (s.step x).bind fun next => readFrom next .outside rest := by
  cases rest with
  | nil =>
      rw [readFrom,ends]
      cases next : s.step x with
      | none => simp [State.run,next]
      | some t => simp [State.run,next,readFrom,Scan.finish]
  | cons c rest =>
      rw [readFrom,leaves c rfl]
      cases next : s.step x with
      | none => simp [State.run,next]
      | some t => simp [State.run,next,readFrom,Scan.advance]

theorem readFrom_quiet {scan next : Scan} {c : Char} (goesOn : scan.advance c = ([],next)) :
    readFrom s scan (c :: rest) = readFrom s next rest := by
  rw [readFrom,goesOn]
  rfl

-- No longer punctuator starts with this one, in front of this text.
def Apart (punctuator text : List Char) : Prop :=
  ∀ c ∈ text.head?, punctuators.contains (punctuator ++ [c]) = false

theorem readFrom_mark (m : Mark) (apart : Apart m.text rest) :
    readFrom s .outside (m.text ++ rest)
      = (s.step (.mark m)).bind fun next => readFrom next .outside rest := by
  have reached : readFrom s .outside (m.text ++ rest) = readFrom s (.punctuator m.text) rest := by
    cases m with
    | operator op => cases op <;> rfl
    | _ => rfl
  rw [reached]
  refine readFrom_lexeme ?_ fun c first => ?_
  · rw [Scan.finish,Scan.lexeme,Mark.ofText_text]
  · rw [Scan.advance,apart c first,Scan.lexeme,Mark.ofText_text]
    rfl

def Word (text : List Char) : Prop :=
  ∃ c more, text = c :: more ∧ isWordStart c = true ∧ ∀ d ∈ more, isWordPart d = true

theorem Word.of_parts {text : List Char} (c : Char) (more : List Char) (is : text = c :: more)
    (starts : isWordStart c = true) (parts : more.all isWordPart = true) : Word text :=
  ⟨c,more,is,starts,List.all_eq_true.mp parts⟩

theorem readFrom_word {text : List Char} (word : Word text)
    (ends : ∀ c ∈ rest.head?, isWordPart c = false) :
    readFrom s .outside (text ++ rest)
      = (s.step (.word text)).bind fun next => readFrom next .outside rest := by
  obtain ⟨c,more,rfl,starts,parts⟩ := word
  have entered : Scan.enter c = .word [c] := by simp [Scan.enter,starts]
  have inside : ∀ read, readFrom s (.word read) (more ++ rest)
      = readFrom s (.word (read ++ more)) rest := by
    induction more with
    | nil => intro read; simp
    | cons d more ih =>
        intro read
        have goesOn : Scan.advance d (.word read) = ([],.word (read ++ [d])) := by
          simp [Scan.advance,parts d List.mem_cons_self]
        rw [List.cons_append,readFrom_quiet goesOn,
          ih fun d listed => parts d (List.mem_cons_of_mem _ listed)]
        simp
  have started : Scan.advance c .outside = ([],.word [c]) := by rw [Scan.advance,entered]
  rw [List.cons_append,readFrom_quiet started,inside]
  refine readFrom_lexeme rfl fun d first => ?_
  simp [Scan.advance,ends d first]

theorem digit_plain {c : Char} (digit : c.isDigit = true) : isWordStart c = false := by
  have others : c ≠ '_' ∧ c ≠ '$' := by
    constructor <;> rintro rfl <;> cases digit
  have letter : c.isAlpha = false := by
    change (decide ('A'.val ≤ c.val ∧ c.val ≤ 'Z'.val)
      || decide ('a'.val ≤ c.val) && decide (c.val ≤ 'z'.val)) = false
    simp only [Char.isDigit,Bool.and_eq_true,decide_eq_true_eq] at digit
    grind
  simp [isWordStart,letter,others]

theorem readFrom_digits {read digits : List Char} (each : ∀ c ∈ digits, c.isDigit = true) :
    readFrom s (.numeral read) (digits ++ rest) = readFrom s (.numeral (read ++ digits)) rest := by
  induction digits generalizing read with
  | nil => simp
  | cons c digits ih =>
      have goesOn : Scan.advance c (.numeral read) = ([],.numeral (read ++ [c])) := by
        simp [Scan.advance,Scan.inNumeral,each c List.mem_cons_self]
      rw [List.cons_append,readFrom_quiet goesOn,
        ih fun c listed => each c (List.mem_cons_of_mem _ listed)]
      simp

theorem readFrom_inNumeral {read : List Char} {c : Char} (inside : Scan.inNumeral read c = true) :
    readFrom s (.numeral read) (c :: rest) = readFrom s (.numeral (read ++ [c])) rest :=
  readFrom_quiet (by simp [Scan.advance,inside])

theorem inNumeral_over {text : List Char} (last : text.getLast? ≠ some 'e') {c : Char}
    (plain : isWordPart c = false) (pointless : c ≠ '.') : Scan.inNumeral text c = false := by
  have digitless : c.isDigit = false := (Bool.or_eq_false_iff.mp plain).2
  have other : c ≠ 'e' := by rintro rfl; cases plain
  simp [Scan.inNumeral,digitless,pointless,other,last]

theorem readFrom_numeral {text : List Char} (numeral : Decimal.Numeral text)
    (ends : ∀ c ∈ rest.head?, isWordPart c = false ∧ c ≠ '.') :
    readFrom s .outside (text ++ rest)
      = (s.step (.numeral text)).bind fun next => readFrom next .outside rest := by
  have last := numeral.last
  obtain ⟨whole,fraction,exponent,digits,point,power,rfl⟩ := numeral.parts
  have started : ∀ after, readFrom s .outside (whole ++ after)
      = readFrom s (.numeral whole) after := by
    intro after
    cases whole with
    | nil => exact absurd rfl digits.1
    | cons c whole =>
        have digit := digits.2 c List.mem_cons_self
        have entered : Scan.advance c .outside = ([],.numeral [c]) := by
          simp [Scan.advance,Scan.enter,digit_plain digit,digit]
        rw [List.cons_append,readFrom_quiet entered]
        exact readFrom_digits fun c listed => digits.2 c (List.mem_cons_of_mem _ listed)
  have pointed : ∀ after, readFrom s (.numeral whole) (fraction ++ after)
      = readFrom s (.numeral (whole ++ fraction)) after := by
    intro after
    rcases point with rfl | ⟨more,digits,rfl⟩
    · simp
    · rw [List.cons_append,readFrom_inNumeral (by simp [Scan.inNumeral]),readFrom_digits digits.2]
      simp
  have raised : readFrom s (.numeral (whole ++ fraction)) (exponent ++ rest)
      = readFrom s (.numeral (whole ++ fraction ++ exponent)) rest := by
    rcases power with rfl | ⟨more,digits,rfl | rfl⟩
    · simp
    · rw [List.cons_append,readFrom_inNumeral (by simp [Scan.inNumeral]),readFrom_digits digits.2]
      simp
    · rw [List.cons_append,readFrom_inNumeral (by simp [Scan.inNumeral]),List.cons_append,
        readFrom_inNumeral (by simp [Scan.inNumeral]),readFrom_digits digits.2]
      simp
  rw [List.append_assoc,List.append_assoc,started,pointed,raised]
  refine readFrom_lexeme rfl fun c first => ?_
  rw [Scan.advance,inNumeral_over last (ends c first).1 (ends c first).2]
  rfl

-- Some characters have a letter of their own, other control characters are written as their code,
-- and the rest stands for itself.
def lettered : List Nat :=
  [8,9,10,12,13,34,92]

theorem escaped_letter {n : Nat} (letter : n ∈ lettered) :
    ∃ e, (Json.escapedChar (Char.ofNat n)).toList = ['\\',e] ∧ e ≠ 'u' ∧
      Scan.escapes.lookup e = some (Char.ofNat n) := by
  -- Characters are finitely many, and must not be searched for the letter.
  have known : ∀ n ∈ lettered, (['b','t','n','f','r','"','\\'].any fun e =>
      (Json.escapedChar (Char.ofNat n)).toList == ['\\',e] && (e != 'u' &&
        Scan.escapes.lookup e == some (Char.ofNat n))) = true := by
    decide +kernel
  obtain ⟨e,-,found⟩ := List.any_eq_true.mp (known n letter)
  simp only [Bool.and_eq_true,beq_iff_eq,bne_iff_ne] at found
  exact ⟨e,found⟩

theorem escaped_code : ∀ n < 32, n ∉ lettered → (Json.escapedChar (Char.ofNat n)).toList
    = ['\\','u','0','0',if n < 16 then '0' else '1',Nat.digitChar (n % 16)] := by
  decide +kernel

theorem hexValue_digit : ∀ n < 16, Text.hexValue? (Nat.digitChar n) = some n := by
  decide

theorem readFrom_letter {c : Char} (letter : c.toNat ∈ lettered) (read : List Char) :
    readFrom s (.text '"' read) ((Json.escapedChar c).toList ++ rest)
      = readFrom s (.text '"' (read ++ [c])) rest := by
  obtain ⟨e,written,other,known⟩ := escaped_letter letter
  rw [Char.ofNat_toNat] at written known
  have starts : Scan.advance '\\' (.text '"' read) = ([],.escape '"' read) := rfl
  have ends : Scan.advance e (.escape '"' read) = ([],.text '"' (read ++ [c])) := by
    simp [Scan.advance,other,known]
  rw [written,List.cons_append,readFrom_quiet starts,List.cons_append,readFrom_quiet ends]
  rfl

theorem readFrom_code {c : Char} (control : c.toNat < 32) (other : c.toNat ∉ lettered)
    (read : List Char) :
    readFrom s (.text '"' read) ((Json.escapedChar c).toList ++ rest)
      = readFrom s (.text '"' (read ++ [c])) rest := by
  have written := escaped_code c.toNat control other
  have lead : Text.hexValue? (if c.toNat < 16 then '0' else '1') = some (c.toNat / 16) := by
    split
    · rw [Nat.div_eq_of_lt ‹_›]; rfl
    · rw [show c.toNat / 16 = 1 by omega]; rfl
  have last := hexValue_digit (c.toNat % 16) (Nat.mod_lt _ (by decide))
  have coded : Char.ofNat ([0,0,c.toNat / 16,c.toNat % 16].foldl (16 * · + ·) 0) = c := by
    have value : [0,0,c.toNat / 16,c.toNat % 16].foldl (16 * · + ·) 0 = c.toNat := by
      simp only [List.foldl_cons,List.foldl_nil]
      omega
    rw [value,Char.ofNat_toNat]
  have third : Scan.advance (if c.toNat < 16 then '0' else '1') (.code '"' read [0,0])
      = ([],.code '"' read [0,0,c.toNat / 16]) := by
    rw [Scan.advance,lead]
    rfl
  have fourth : Scan.advance (Nat.digitChar (c.toNat % 16)) (.code '"' read [0,0,c.toNat / 16])
      = ([],.text '"' (read ++ [c])) := by
    rw [Scan.advance,last]
    exact congrArg (fun d => ([],Scan.text '"' (read ++ [d]))) coded
  rw [Char.ofNat_toNat] at written
  rw [written]
  exact (readFrom_quiet third).trans (readFrom_quiet fourth)

theorem readFrom_plain {c : Char} (printed : ¬ c.toNat < 32) (other : c.toNat ∉ lettered)
    (read : List Char) :
    readFrom s (.text '"' read) ((Json.escapedChar c).toList ++ rest)
      = readFrom s (.text '"' (read ++ [c])) rest := by
  have spaced (d : Char) (low : d.toNat < 32 ∨ d.toNat ∈ lettered) : c ≠ d := by
    rintro rfl
    exact low.elim printed other
  have quote := spaced '"' (by decide)
  have slash := spaced '\\' (by decide)
  have line := spaced '\n' (by decide)
  have back := spaced '\r' (by decide)
  have written : (Json.escapedChar c).toList = [c] := by
    unfold Json.escapedChar
    split
    · exact absurd rfl quote
    · exact absurd rfl slash
    · exact absurd rfl line
    · exact absurd rfl back
    · exact absurd rfl (spaced '\t' (by decide))
    · have bell : c.toNat ≠ 8 := by omega
      have feed : c.toNat ≠ 12 := by omega
      simp [bell,feed,printed]
  have stays : Scan.advance c (.text '"' read) = ([],.text '"' (read ++ [c])) := by
    simp [Scan.advance,quote,slash,line,back]
  rw [written]
  exact readFrom_quiet stays

theorem readFrom_escaped (c : Char) (read : List Char) :
    readFrom s (.text '"' read) ((Json.escapedChar c).toList ++ rest)
      = readFrom s (.text '"' (read ++ [c])) rest := by
  by_cases letter : c.toNat ∈ lettered
  · exact readFrom_letter letter read
  · by_cases control : c.toNat < 32
    · exact readFrom_code control letter read
    · exact readFrom_plain control letter read

theorem readFrom_closing (quote : Char) (read : List Char) :
    readFrom s (.text quote read) (quote :: rest)
      = (s.step (.text read)).bind fun next => readFrom next .outside rest := by
  have ends : Scan.advance quote (.text quote read) = ([.text read],.outside) := by
    simp [Scan.advance]
  rw [readFrom,ends]
  cases next : s.step (.text read) with
  | none => simp [State.run,next]
  | some t => simp [State.run,next]

theorem readFrom_text (text : String) :
    readFrom s .outside ((Json.stringText text).toList ++ rest)
      = (s.step (.text text.toList)).bind fun next => readFrom next .outside rest := by
  have inside : ∀ cs read : List Char, readFrom s (.text '"' read)
      (cs.flatMap (fun c => (Json.escapedChar c).toList) ++ '"' :: rest)
        = (s.step (.text (read ++ cs))).bind fun next => readFrom next .outside rest := by
    intro cs
    induction cs with
    | nil =>
        intro read
        rw [List.flatMap_nil,List.nil_append,readFrom_closing,List.append_nil]
    | cons c cs ih =>
        intro read
        rw [List.flatMap_cons,List.append_assoc,readFrom_escaped,ih,List.append_assoc]
        rfl
  have starts : Scan.advance '"' .outside = ([],.text '"' []) := rfl
  have shape : (Json.stringText text).toList ++ rest
      = '"' :: (text.toList.flatMap (fun c => (Json.escapedChar c).toList) ++ '"' :: rest) := by
    simp [Json.stringText,String.toList_join,List.flatMap_map]
  rw [shape,readFrom_quiet starts]
  exact inside text.toList []

theorem readFrom_empty :
    readFrom s .outside ('\'' :: '\'' :: rest)
      = (s.step (.text [])).bind fun next => readFrom next .outside rest := by
  have starts : Scan.advance '\'' .outside = ([],.text '\'' []) := rfl
  rw [readFrom_quiet starts,readFrom_closing]

end Lexemes

end OlapQuery.Druid.Script
