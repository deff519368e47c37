import OlapQuery.Proofs.NumberTexts
import OlapQuery.Sql.Dialect

-- SQL arithmetic as an engine reads it: quoted columns, numerals, calls, parentheses, unary minus
-- and four operators, of which multiplication and division bind tighter and all of which
-- associate to the left. Two dashes start a comment that ends with its line.

namespace OlapQuery.Sql

inductive Operation where
  | add
  | subtract
  | multiply
  | divide
  deriving DecidableEq, Repr

inductive Term where
  | column (name : List Char)
  | numeral (text : List Char)
  | negate (t : Term)
  | compute (op : Operation) (a b : Term)
  | floor (t : Term)
  -- Where the second stands in the first, counted from one.
  | position (a b : Term)
  deriving DecidableEq, Repr

-- What has been read of a sum before its next operand: the sum so far, and the product so far.
structure Level where
  sum : Option (Term × Operation) := none
  product : Option (Term × Operation) := none
  deriving DecidableEq, Repr

namespace Level

def factor (l : Level) (t : Term) : Term :=
  match l.product with
  | none => t
  | some (p,op) => .compute op p t

def close (l : Level) (t : Term) : Term :=
  match l.sum with
  | none => l.factor t
  | some (s,op) => .compute op s (l.factor t)

def push (l : Level) (t : Term) : Operation → Level
  | .multiply => { l with product := some (l.factor t,.multiply) }
  | .divide => { l with product := some (l.factor t,.divide) }
  | .add => { sum := some (l.close t,.add) }
  | .subtract => { sum := some (l.close t,.subtract) }

end Level

inductive Call where
  | group
  | floor
  | strpos
  | locate
  deriving DecidableEq, Repr

def Call.ofWord? (word : List Char) : Option Call :=
  if word = ['F','L','O','O','R'] then some .floor
  else if word = ['S','T','R','P','O','S'] then some .strpos
  else if word = ['L','O','C','A','T','E'] then some .locate
  else none

def Call.apply : Call → List Term → Option Term
  | .group,[t] => some t
  | .floor,[t] => some (.floor t)
  | .strpos,[a,b] => some (.position a b)
  | .locate,[b,a] => some (.position a b)
  | _,_ => none

-- A call or group that is still open: the arguments before this one, and what waits for it.
structure Open where
  call : Call
  given : List Term := []
  level : Level
  minus : Nat
  deriving DecidableEq, Repr

inductive Lexeme where
  | column (name : List Char)
  | numeral (text : List Char)
  | word (text : List Char)
  | symbol (c : Char)
  deriving DecidableEq, Repr

inductive State where
  -- An operand is wanted, behind so many signs.
  | want (level : Level) (minus : Nat) (outer : List Open)
  | called (call : Call) (level : Level) (minus : Nat) (outer : List Open)
  | done (level : Level) (t : Term) (outer : List Open)
  deriving DecidableEq, Repr

def negated (minus : Nat) (t : Term) : Term :=
  match minus with
  | 0 => t
  | n + 1 => .negate (negated n t)

namespace State

def step : State → Lexeme → Option State
  | .want l minus outer,.column name => some (.done l (negated minus (.column name)) outer)
  | .want l minus outer,.numeral text => some (.done l (negated minus (.numeral text)) outer)
  | .want l minus outer,.word text =>
      (Call.ofWord? text).map fun call => .called call l minus outer
  | .want l minus outer,.symbol '(' =>
      some (.want {} 0 ({ call := .group,level := l,minus } :: outer))
  | .want l minus outer,.symbol '-' => some (.want l (minus + 1) outer)
  | .called call l minus outer,.symbol '(' =>
      some (.want {} 0 ({ call,level := l,minus } :: outer))
  | .done l t outer,.symbol '+' => some (.want (l.push t .add) 0 outer)
  | .done l t outer,.symbol '-' => some (.want (l.push t .subtract) 0 outer)
  | .done l t outer,.symbol '*' => some (.want (l.push t .multiply) 0 outer)
  | .done l t outer,.symbol '/' => some (.want (l.push t .divide) 0 outer)
  | .done l t (o :: outer),.symbol ',' =>
      some (.want {} 0 ({ o with given := o.given ++ [l.close t] } :: outer))
  | .done l t (o :: outer),.symbol ')' =>
      (o.call.apply (o.given ++ [l.close t])).map fun u =>
        .done o.level (negated o.minus u) outer
  | _,_ => none

def run (s : State) : List Lexeme → Option State
  | [] => some s
  | x :: rest => (s.step x).bind (run · rest)

def finish : State → Option Term
  | .done l t [] => some (l.close t)
  | _ => none

end State

-- Where a reader of characters stands, with what it has read of a lexeme.
inductive Scan where
  | outside
  | column (name : List Char)
  | leaving (name : List Char)
  | numeral (text : List Char)
  | word (text : List Char)
  -- After a dash, which makes a comment with another one.
  | dash
  | comment

namespace Scan

def isSymbol (c : Char) : Bool :=
  ['(',')',',','+','*','/'].contains c

def enter (mark c : Char) : List Lexeme × Scan :=
  if c.isDigit then ([],.numeral [c])
  else if c.isAlpha then ([],.word [c])
  else if c == '-' then ([],.dash)
  else if c.isWhitespace then ([],.outside)
  else if isSymbol c then ([.symbol c],.outside)
  else if c == mark then ([],.column [])
  else ([.symbol c],.outside)

def inNumeral (read : List Char) (c : Char) : Bool :=
  c.isDigit || c == '.' || c == 'e' || (c == '-' && read.getLast? == some 'e')

def advance (mark c : Char) : Scan → List Lexeme × Scan
  | .outside => enter mark c
  | .column name => if c == mark then ([],.leaving name) else ([],.column (name ++ [c]))
  | .leaving name =>
      if c == mark then ([],.column (name ++ [c]))
      else (.column name :: (enter mark c).1,(enter mark c).2)
  | .numeral read =>
      if inNumeral read c then ([],.numeral (read ++ [c]))
      else (.numeral read :: (enter mark c).1,(enter mark c).2)
  | .word read =>
      if c.isAlpha then ([],.word (read ++ [c]))
      else (.word read :: (enter mark c).1,(enter mark c).2)
  | .dash =>
      if c == '-' then ([],.comment)
      else (.symbol '-' :: (enter mark c).1,(enter mark c).2)
  | .comment => if c == '\n' then ([],.outside) else ([],.comment)

-- The end of the text; it may not be inside a quote.
def finish : Scan → Option (List Lexeme)
  | .outside => some []
  | .column _ => none
  | .leaving name => some [.column name]
  | .numeral read => some [.numeral read]
  | .word read => some [.word read]
  | .dash => some [.symbol '-']
  | .comment => some []

end Scan

def readFrom (mark : Char) (s : State) (scan : Scan) : List Char → Option Term
  | [] => scan.finish.bind fun last => (s.run last).bind State.finish
  | c :: rest =>
      (s.run (scan.advance mark c).1).bind fun next => readFrom mark next (scan.advance mark c).2 rest

def Dialect.read (d : Dialect) (text : String) : Option Term :=
  readFrom d.identifierMark (.want {} 0 []) .outside text.toList

section Reading

variable {mark : Char} {s : State} {rest : List Char}

theorem readFrom_lexeme {scan : Scan} {x : Lexeme} (ends : scan.finish = some [x])
    (leaves : ∀ c ∈ rest.head?, scan.advance mark c = (x :: (Scan.enter mark c).1,(Scan.enter mark c).2)) :
    readFrom mark s scan rest = (s.step x).bind fun next => readFrom mark next .outside rest := by
  cases rest with
  | nil =>
      rw [readFrom,ends]
      cases next : s.step x with
      | none => simp [State.run,next]
      | some t => simp [State.run,next,readFrom,Scan.finish]
  | cons c rest =>
      rw [readFrom,leaves c rfl]
      cases next : s.step x with
      | none => simp [State.run,next]
      | some t => simp [State.run,next,readFrom,Scan.advance]

theorem readFrom_symbol {c : Char} (symbol : Scan.isSymbol c = true) :
    readFrom mark s .outside (c :: rest)
      = (s.step (.symbol c)).bind fun next => readFrom mark next .outside rest := by
  have entered : Scan.enter mark c = ([.symbol c],.outside) := by
    simp only [Scan.isSymbol,List.contains_iff_mem,List.mem_cons,List.not_mem_nil,or_false] at symbol
    rcases symbol with rfl | rfl | rfl | rfl | rfl | rfl <;> rfl
  rw [readFrom,Scan.advance,entered]
  cases next : s.step (.symbol c) with
  | none => simp [State.run,next]
  | some t => simp [State.run,next]

-- A character that neither goes on with a lexeme nor starts one.
def parts (c : Char) : Bool :=
  [' ','(',')',',','+','-','*','/'].contains c

def Clear (text : List Char) : Prop :=
  ∀ c ∈ text.head?, parts c = true

theorem readFrom_column {d : Dialect} {name : List Char} (clear : Clear rest) :
    readFrom d.identifierMark s (.leaving name) rest = (s.step (.column name)).bind fun next =>
      readFrom d.identifierMark next .outside rest := by
  refine readFrom_lexeme rfl fun c first => ?_
  have other : c ≠ d.identifierMark := by
    rintro rfl
    have parted := clear _ first
    revert parted
    unfold Dialect.identifierMark
    cases d.family <;> decide
  simp [Scan.advance,other]

theorem readFrom_word {text : List Char} (clear : Clear rest) :
    readFrom mark s (.word text) rest
      = (s.step (.word text)).bind fun next => readFrom mark next .outside rest := by
  refine readFrom_lexeme rfl fun c first => ?_
  have plain : c.isAlpha = false := by
    have parted := clear c first
    simp only [parts,List.contains_iff_mem,List.mem_cons,List.not_mem_nil,or_false] at parted
    rcases parted with rfl | rfl | rfl | rfl | rfl | rfl | rfl | rfl <;> rfl
  simp [Scan.advance,plain]

theorem readFrom_numeral {text : List Char} (clear : Clear rest)
    (ended : text.getLast? ≠ some 'e') :
    readFrom mark s (.numeral text) rest
      = (s.step (.numeral text)).bind fun next => readFrom mark next .outside rest := by
  refine readFrom_lexeme rfl fun c first => ?_
  have outside : Scan.inNumeral text c = false := by
    have parted := clear c first
    simp only [parts,List.contains_iff_mem,List.mem_cons,List.not_mem_nil,or_false] at parted
    rcases parted with rfl | rfl | rfl | rfl | rfl | rfl | rfl | rfl <;>
      simp [Scan.inNumeral,Char.isDigit,ended]
  simp [Scan.advance,outside]

theorem readFrom_dash (single : rest.head? ≠ some '-') :
    readFrom mark s .dash rest
      = (s.step (.symbol '-')).bind fun next => readFrom mark next .outside rest := by
  refine readFrom_lexeme rfl fun c first => ?_
  have other : c ≠ '-' := fun is => single (by rw [← is]; exact first)
  simp [Scan.advance,other]

theorem readFrom_comment (unbroken : '\n' ∉ rest) :
    readFrom mark s .comment rest = s.finish := by
  induction rest with
  | nil => rfl
  | cons c rest ih =>
      obtain ⟨other,later⟩ := not_or.mp (mt List.mem_cons.mpr unbroken)
      have goesOn : Scan.advance mark c .comment = ([],.comment) := by
        simp [Scan.advance,Ne.symm other]
      rw [readFrom,goesOn]
      exact ih later

theorem readFrom_digits {read digits : List Char} (each : ∀ c ∈ digits, c.isDigit = true) :
    readFrom mark s (.numeral read) (digits ++ rest)
      = readFrom mark s (.numeral (read ++ digits)) rest := by
  induction digits generalizing read with
  | nil => simp
  | cons c digits ih =>
      have goesOn : Scan.advance mark c (.numeral read) = ([],.numeral (read ++ [c])) := by
        simp [Scan.advance,Scan.inNumeral,each c List.mem_cons_self]
      rw [List.cons_append,readFrom,goesOn]
      simpa [State.run] using
        @ih (read ++ [c]) fun c listed => each c (List.mem_cons_of_mem _ listed)

theorem readFrom_inNumeral {read : List Char} {c : Char} (inside : Scan.inNumeral read c = true) :
    readFrom mark s (.numeral read) (c :: rest) = readFrom mark s (.numeral (read ++ [c])) rest := by
  simp [readFrom,Scan.advance,inside,State.run]

theorem readFrom_text {text : List Char} (numeral : Decimal.Numeral text) (clear : Clear rest) :
    readFrom mark s .outside (text ++ rest)
      = (s.step (.numeral text)).bind fun next => readFrom mark next .outside rest := by
  have last := numeral.last
  obtain ⟨whole,fraction,exponent,digits,point,power,rfl⟩ := numeral.parts
  have started : ∀ after, readFrom mark s .outside (whole ++ after)
      = readFrom mark s (.numeral whole) after := by
    intro after
    cases whole with
    | nil => exact absurd rfl digits.1
    | cons c whole =>
        have starts : Scan.enter mark c = ([],.numeral [c]) := by
          simp [Scan.enter,digits.2 c List.mem_cons_self]
        simp only [List.cons_append,readFrom,Scan.advance,starts]
        exact readFrom_digits fun c listed => digits.2 c (List.mem_cons_of_mem _ listed)
  have pointed : ∀ after, readFrom mark s (.numeral whole) (fraction ++ after)
      = readFrom mark s (.numeral (whole ++ fraction)) after := by
    intro after
    rcases point with rfl | ⟨more,digits,rfl⟩
    · simp
    · rw [List.cons_append,readFrom_inNumeral (by simp [Scan.inNumeral]),readFrom_digits digits.2]
      simp
  have raised : readFrom mark s (.numeral (whole ++ fraction)) (exponent ++ rest)
      = readFrom mark s (.numeral (whole ++ fraction ++ exponent)) rest := by
    rcases power with rfl | ⟨more,digits,rfl | rfl⟩
    · simp
    · rw [List.cons_append,readFrom_inNumeral (by simp [Scan.inNumeral]),readFrom_digits digits.2]
      simp
    · rw [List.cons_append,readFrom_inNumeral (by simp [Scan.inNumeral]),List.cons_append,
        readFrom_inNumeral (by simp [Scan.inNumeral]),readFrom_digits digits.2]
      simp
  rw [List.append_assoc,List.append_assoc,started,pointed,raised]
  exact readFrom_numeral clear last

theorem readFrom_identifier {d : Dialect} {name : String} (clear : Clear rest) :
    readFrom d.identifierMark s .outside ((d.quoteIdentifier name).toList ++ rest)
      = (s.step (.column name.toList)).bind fun next =>
        readFrom d.identifierMark next .outside rest := by
  have inside : ∀ text read : List Char, readFrom d.identifierMark s (.column read)
      (doubled d.identifierMark text ++ d.identifierMark :: rest)
        = readFrom d.identifierMark s (.leaving (read ++ text)) rest := by
    intro text
    induction text with
    | nil => intro read; simp [doubled,readFrom,Scan.advance,State.run]
    | cons c text ih =>
        intro read
        have next := ih (read ++ [c])
        rw [List.append_assoc] at next
        by_cases is : c = d.identifierMark
        · subst is
          simpa [doubled,readFrom,Scan.advance,State.run] using next
        · simpa [doubled,readFrom,Scan.advance,State.run,is] using next
  have start : Scan.enter d.identifierMark d.identifierMark = ([],.column []) := by
    unfold Dialect.identifierMark
    cases d.family <;> rfl
  have shape : (d.quoteIdentifier name).toList
      = d.identifierMark :: doubled d.identifierMark name.toList ++ [d.identifierMark] := by
    simp [Dialect.quoteIdentifier,enclosed]
  rw [shape]
  simp only [List.cons_append,List.append_assoc,readFrom,Scan.advance,start]
  exact (inside name.toList []).trans (readFrom_column clear)

end Reading

end OlapQuery.Sql
