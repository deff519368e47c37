import Mathlib.Data.List.Forall2
import OlapQuery.Sql.Dialect

-- SQL text read by the quoting rules of a dialect: strings, quoted identifiers, and every other
-- character on its own. Two texts are alike if they are the same but for the contents of
-- strings; they then read as the same tokens but for those contents.

namespace OlapQuery.Sql

inductive Token where
  | string (content : List Char)
  | identifier (name : List Char)
  | char (c : Char)
  deriving DecidableEq, Repr

-- Where a reader stands, with what it has read of a quoted text.
inductive Place where
  | outside
  | string (content : List Char)
  -- After a backslash.
  | escape (content : List Char)
  -- After an apostrophe, which ends the string unless another one follows.
  | closing (content : List Char)
  | identifier (name : List Char)
  | leaving (name : List Char)

namespace Dialect

variable {d : Dialect}

-- Whether a backslash escapes in strings; otherwise an apostrophe is written twice.
def escapes (d : Dialect) : Bool :=
  match d.family with
  | .presto => false
  | .postgres => false
  | .bigQuery => true
  | .mySql => true

def isMark (d : Dialect) (c : Char) : Bool :=
  c == apostrophe || c == d.identifierMark

def enter (d : Dialect) (c : Char) : List Token × Place :=
  if c == apostrophe then ([],.string [])
  else if c == d.identifierMark then ([],.identifier [])
  else ([.char c],.outside)

def advance (d : Dialect) (c : Char) : Place → List Token × Place
  | .outside => d.enter c
  | .string content =>
      if c == apostrophe then
        if d.escapes then ([.string content],.outside) else ([],.closing content)
      else if d.escapes && c == '\\' then ([],.escape content)
      else ([],.string (content ++ [c]))
  | .escape content => ([],.string (content ++ [c]))
  | .closing content =>
      if c == apostrophe then ([],.string (content ++ [c]))
      else (.string content :: (d.enter c).1,(d.enter c).2)
  | .identifier name =>
      if c == d.identifierMark then ([],.leaving name) else ([],.identifier (name ++ [c]))
  | .leaving name =>
      if c == d.identifierMark then ([],.identifier (name ++ [c]))
      else (.identifier name :: (d.enter c).1,(d.enter c).2)

-- The end of the text; it may not be inside a quote.
def finish : Place → Option (List Token)
  | .outside => some []
  | .closing content => some [.string content]
  | .leaving name => some [.identifier name]
  | _ => none

def tokensFrom (d : Dialect) (place : Place) : List Char → Option (List Token)
  | [] => finish place
  | c :: rest => (d.tokensFrom (d.advance c place).2 rest).map ((d.advance c place).1 ++ ·)

def tokens (d : Dialect) (text : String) : Option (List Token) :=
  d.tokensFrom .outside text.toList

-- Text that may follow a quoted one.
def Fresh (d : Dialect) (text : List Char) : Prop :=
  ∀ c ∈ text.head?, d.isMark c = false

def body (d : Dialect) (text : List Char) : List Char :=
  if d.escapes then backslashed text else doubled apostrophe text

theorem quoteString_body (text : String) :
    (d.quoteString text).toList = apostrophe :: d.body text.toList ++ [apostrophe] := by
  unfold quoteString body escapes
  cases d.family <;> simp [enclosed]

theorem tokensFrom_closing {content rest : List Char} (fresh : d.Fresh rest) :
    d.tokensFrom (.closing content) rest
      = (d.tokensFrom .outside rest).map (.string content :: ·) := by
  cases rest with
  | nil => rfl
  | cons c rest =>
      have plain : (c == apostrophe) = false := (Bool.or_eq_false_iff.mp (fresh c rfl)).1
      simp only [tokensFrom,advance,plain,Bool.false_eq_true,↓reduceIte,Option.map_map]
      rfl

theorem tokensFrom_leaving {name rest : List Char} (fresh : d.Fresh rest) :
    d.tokensFrom (.leaving name) rest
      = (d.tokensFrom .outside rest).map (.identifier name :: ·) := by
  cases rest with
  | nil => rfl
  | cons c rest =>
      have plain : (c == d.identifierMark) = false := (Bool.or_eq_false_iff.mp (fresh c rfl)).2
      simp only [tokensFrom,advance,plain,Bool.false_eq_true,↓reduceIte,Option.map_map]
      rfl

theorem tokensFrom_doubled {content text rest : List Char} (plain : d.escapes = false) :
    d.tokensFrom (.string content) (doubled apostrophe text ++ apostrophe :: rest)
      = d.tokensFrom (.closing (content ++ text)) rest := by
  induction text generalizing content with
  | nil => simp [doubled,tokensFrom,advance,plain]
  | cons c text ih =>
      have next := @ih (content ++ [c])
      rw [List.append_assoc] at next
      by_cases mark : c = apostrophe
      · subst mark
        simpa [doubled,tokensFrom,advance,plain] using next
      · simpa [doubled,tokensFrom,advance,plain,mark] using next

theorem tokensFrom_backslashed {content text rest : List Char} (escaped : d.escapes = true) :
    d.tokensFrom (.string content) (backslashed text ++ apostrophe :: rest)
      = (d.tokensFrom .outside rest).map (.string (content ++ text) :: ·) := by
  induction text generalizing content with
  | nil => simp [backslashed,tokensFrom,advance,escaped]
  | cons c text ih =>
      have next := @ih (content ++ [c])
      rw [List.append_assoc] at next
      have slash : '\\' ≠ apostrophe := by decide
      by_cases mark : c = '\\' ∨ c = apostrophe
      · simpa [backslashed,tokensFrom,advance,escaped,mark,slash] using next
      · have other : c ≠ '\\' ∧ c ≠ apostrophe := not_or.mp mark
        simpa [backslashed,tokensFrom,advance,escaped,other] using next

theorem tokensFrom_string {text : String} {rest : List Char} (fresh : d.Fresh rest) :
    d.tokensFrom .outside ((d.quoteString text).toList ++ rest)
      = (d.tokensFrom .outside rest).map (.string text.toList :: ·) := by
  have start : d.advance apostrophe .outside = ([],.string []) := by
    simp [advance,enter]
  rw [quoteString_body]
  simp only [List.cons_append,List.append_assoc,tokensFrom,start,body]
  cases escaped : d.escapes with
  | true =>
      simp only [↓reduceIte,List.nil_append,Option.map_id']
      exact tokensFrom_backslashed escaped
  | false =>
      simp only [Bool.false_eq_true,↓reduceIte,List.nil_append,Option.map_id']
      exact (tokensFrom_doubled escaped).trans (tokensFrom_closing fresh)

theorem tokensFrom_identifier {name : String} {rest : List Char} (fresh : d.Fresh rest) :
    d.tokensFrom .outside ((d.quoteIdentifier name).toList ++ rest)
      = (d.tokensFrom .outside rest).map (.identifier name.toList :: ·) := by
  have different : d.identifierMark ≠ apostrophe := by
    unfold identifierMark
    cases d.family <;> decide
  have inside : ∀ text read : List Char, d.tokensFrom (.identifier read)
      (doubled d.identifierMark text ++ d.identifierMark :: rest)
        = d.tokensFrom (.leaving (read ++ text)) rest := by
    intro text
    induction text with
    | nil => intro read; simp [doubled,tokensFrom,advance]
    | cons c text ih =>
        intro read
        have next := ih (read ++ [c])
        rw [List.append_assoc] at next
        by_cases mark : c = d.identifierMark
        · subst mark
          simpa [doubled,tokensFrom,advance] using next
        · simpa [doubled,tokensFrom,advance,mark] using next
  have start : d.advance d.identifierMark .outside = ([],.identifier []) := by
    simp [advance,enter,different]
  have shape : (d.quoteIdentifier name).toList
      = d.identifierMark :: doubled d.identifierMark name.toList ++ [d.identifierMark] := by
    simp [quoteIdentifier,enclosed]
  rw [shape]
  simp only [List.cons_append,List.append_assoc,tokensFrom,start,List.nil_append,Option.map_id']
  exact (inside name.toList []).trans (tokensFrom_leaving fresh)

end Dialect

-- The same token, or strings whose contents are a pair.
def Token.Agrees (pairs : List (String × String)) (t u : Token) : Prop :=
  t = u ∨ ∃ pair ∈ pairs, t = .string pair.1.toList ∧ u = .string pair.2.toList

inductive Alike (d : Dialect) (pairs : List (String × String)) : List Char → List Char → Prop where
  | nil : Alike d pairs [] []
  | char (plain : d.isMark c = false) (rest : Alike d pairs xs ys) :
      Alike d pairs (c :: xs) (c :: ys)
  | string (known : s = t ∨ (s,t) ∈ pairs) (fresh : d.Fresh xs) (rest : Alike d pairs xs ys) :
      Alike d pairs ((d.quoteString s).toList ++ xs) ((d.quoteString t).toList ++ ys)
  | identifier (fresh : d.Fresh xs) (rest : Alike d pairs xs ys) :
      Alike d pairs ((d.quoteIdentifier name).toList ++ xs) ((d.quoteIdentifier name).toList ++ ys)

namespace Alike

variable {d : Dialect} {pairs : List (String × String)} {xs ys : List Char}

theorem quoted_head (text : String) (rest : List Char) :
    ((d.quoteString text).toList ++ rest).head? = some apostrophe := by
  rw [Dialect.quoteString_body]
  rfl

theorem fresh (alike : Alike d pairs xs ys) (first : d.Fresh xs) : d.Fresh ys := by
  cases alike with
  | nil => exact first
  | char plain rest => exact first
  | string known fresh rest =>
      have mark := first apostrophe (quoted_head _ _)
      simp [Dialect.isMark] at mark
  | @identifier us vs name fresh rest =>
      have mark := first d.identifierMark (by simp [Dialect.quoteIdentifier,enclosed])
      simp [Dialect.isMark] at mark

theorem reads (alike : Alike d pairs xs ys) : ∃ ts us, d.tokensFrom .outside xs = some ts ∧
    d.tokensFrom .outside ys = some us ∧ List.Forall₂ (Token.Agrees pairs) ts us := by
  induction alike with
  | nil => exact ⟨[],[],rfl,rfl,.nil⟩
  | @char c xs ys plain rest ih =>
      obtain ⟨ts,us,first,second,agree⟩ := ih
      have step : d.advance c .outside = ([.char c],.outside) := by
        simp only [Dialect.isMark,Bool.or_eq_false_iff] at plain
        simp [Dialect.advance,Dialect.enter,plain]
      refine ⟨.char c :: ts,.char c :: us,?_,?_,.cons (.inl rfl) agree⟩
      · simp [Dialect.tokensFrom,step,first]
      · simp [Dialect.tokensFrom,step,second]
  | @string s t xs ys known fresh rest ih =>
      obtain ⟨ts,us,first,second,agree⟩ := ih
      refine ⟨.string s.toList :: ts,.string t.toList :: us,?_,?_,.cons ?_ agree⟩
      · rw [Dialect.tokensFrom_string fresh,first]
        rfl
      · rw [Dialect.tokensFrom_string (rest.fresh fresh),second]
        rfl
      · rcases known with rfl | listed
        · exact .inl rfl
        · exact .inr ⟨(s,t),listed,rfl,rfl⟩
  | @identifier xs ys name fresh rest ih =>
      obtain ⟨ts,us,first,second,agree⟩ := ih
      refine ⟨.identifier name.toList :: ts,.identifier name.toList :: us,?_,?_,
        .cons (.inl rfl) agree⟩
      · rw [Dialect.tokensFrom_identifier fresh,first]
        rfl
      · rw [Dialect.tokensFrom_identifier (rest.fresh fresh),second]
        rfl

theorem unquoted (alike : Alike d pairs xs ys) :
    (∀ c ∈ xs, d.isMark c = false) ∨ (∀ c ∈ ys, d.isMark c = false) → xs = ys := by
  have marked (text : String) (rest : List Char) :
      ¬ ∀ c ∈ (d.quoteString text).toList ++ rest, d.isMark c = false := by
    intro plain
    have mark := plain apostrophe (List.mem_of_mem_head? (quoted_head text rest))
    simp [Dialect.isMark] at mark
  induction alike with
  | nil => exact fun _ => rfl
  | char plain rest ih =>
      intro all
      rw [ih (all.imp (fun each c listed => each c (List.mem_cons_of_mem _ listed))
        (fun each c listed => each c (List.mem_cons_of_mem _ listed)))]
  | string known fresh rest ih =>
      rintro (all | all)
      · exact absurd all (marked _ _)
      · exact absurd all (marked _ _)
  | @identifier us vs name fresh rest ih =>
      intro all
      rw [ih (all.imp (fun each c listed => each c (List.mem_append_right _ listed))
        (fun each c listed => each c (List.mem_append_right _ listed)))]

end Alike

end OlapQuery.Sql
