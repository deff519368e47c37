import Mathlib.Order.Lattice
import OlapQuery.Proofs.DialectAlike

-- Conditions as an engine reads them: columns and timestamps compared, joined by AND, negated and
-- put in parentheses. No column is null, so that a negation holds where the other does not. The
-- moments that the texts of timestamps stand for are of any linear order.

namespace OlapQuery.Sql

inductive Comparison where
  | equal
  | less
  | atMost
  | greater
  | atLeast
  deriving DecidableEq, Repr

namespace Comparison

def mark : Comparison → List Char
  | .equal => ['=']
  | .less => ['<']
  | .atMost => ['<','=']
  | .greater => ['>']
  | .atLeast => ['>','=']

def holds [LinearOrder T] : Comparison → T → T → Prop
  | .equal,a,b => a = b
  | .less,a,b => a < b
  | .atMost,a,b => a ≤ b
  | .greater,a,b => b < a
  | .atLeast,a,b => b ≤ a

end Comparison

inductive Operand where
  | column (name : List Char)
  | moment (text : List Char)
  deriving DecidableEq, Repr

def Operand.value (moment row : List Char → T) : Operand → T
  | .column name => row name
  | .moment text => moment text

inductive Condition where
  | constant (value : Bool)
  | compare (op : Comparison) (a b : Operand)
  | both (a b : Condition)
  | not (c : Condition)
  deriving DecidableEq, Repr

def Condition.holds [LinearOrder T] (moment row : List Char → T) : Condition → Prop
  | .constant value => value = true
  | .compare op a b => op.holds (a.value moment row) (b.value moment row)
  | .both a b => a.holds moment row ∧ b.holds moment row
  | .not c => ¬ c.holds moment row

def strip : List Char → List Token → Option (List Token)
  | [],ts => some ts
  | c :: cs,.char other :: ts => if c = other then strip cs ts else none
  | _ :: _,_ => none

def comparison? : List Token → Option (Comparison × List Token)
  | .char '<' :: .char '=' :: rest => some (.atMost,rest)
  | .char '>' :: .char '=' :: rest => some (.atLeast,rest)
  | .char '<' :: rest => some (.less,rest)
  | .char '>' :: rest => some (.greater,rest)
  | .char '=' :: rest => some (.equal,rest)
  | _ => none

def andMark : List Char := [' ','A','N','D',' ']

def notMark : List Char := ['N','O','T','(']

def nullMark : List Char := ['N','U','L','L']

namespace Dialect

-- A timestamp is a string behind a word, in some dialects as the argument of a call.
def momentMark (d : Dialect) : List Char :=
  match d.family with
  | .presto => ['f','r','o','m','_','i','s','o','8','6','0','1','_',
      't','i','m','e','s','t','a','m','p','(']
  | .postgres => ['T','I','M','E','S','T','A','M','P',' ']
  | _ => ['T','I','M','E','S','T','A','M','P','(']

def momentEnd (d : Dialect) : List Char :=
  match d.family with
  | .postgres => []
  | _ => [')']

def truthMark (d : Dialect) (value : Bool) : List Char :=
  match d.family with
  | .mySql => if value then ['1'] else ['0']
  | _ => if value then ['t','r','u','e'] else ['f','a','l','s','e']

def operand? (d : Dialect) : List Token → Option (Operand × List Token)
  | .identifier name :: rest => some (.column name,rest)
  | ts =>
      match strip d.momentMark ts with
      | some (.string text :: rest) => (strip d.momentEnd rest).map fun rest => (.moment text,rest)
      | _ => none

def simple? (d : Dialect) (ts : List Token) : Option (Condition × List Token) :=
  match strip (d.truthMark true) ts,strip (d.truthMark false) ts with
  | some rest,_ => some (.constant true,rest)
  | none,some rest => some (.constant false,rest)
  | none,none => do
      let (a,rest) ← d.operand? ts
      let (op,rest) ← comparison? rest
      let (b,rest) ← d.operand? rest
      some (.compare op a b,rest)

-- The descent ends, since every step down is behind a token or to the first of several terms.
mutual
def conjunction? (d : Dialect) : Nat → List Token → Option (Condition × List Token)
  | 0,_ => none
  | fuel + 1,ts => do
      let (first,rest) ← d.term? fuel ts
      match strip andMark rest with
      | none => some (first,rest)
      | some rest => do
          let (others,rest) ← d.conjunction? fuel rest
          some (.both first others,rest)

def term? (d : Dialect) : Nat → List Token → Option (Condition × List Token)
  | 0,_ => none
  | fuel + 1,ts =>
      match strip notMark ts,strip ['('] ts with
      | some inside,_ => do
          let (c,rest) ← d.conjunction? fuel inside
          let rest ← strip [')'] rest
          some (.not c,rest)
      | none,some inside => do
          let (c,rest) ← d.conjunction? fuel inside
          let rest ← strip [')'] rest
          some (c,rest)
      | none,none => d.simple? ts
end

def condition? (d : Dialect) (text : String) : Option Condition := do
  let ts ← d.tokens text
  let (c,rest) ← d.conjunction? (ts.length + 1) ts
  if rest.isEmpty then some c else none

end Dialect

theorem strip_chars (mark : List Char) (rest : List Token) :
    strip mark (mark.map .char ++ rest) = some rest := by
  induction mark with
  | nil => rfl
  | cons c mark ih => simpa [strip] using ih

section Reading

variable {d : Dialect} {a b : String} {ts us rest : List Token} {mark : List Char}
  {c e : Condition}

-- A text that reads as these tokens, in front of anything but a quote.
def Spells (d : Dialect) (text : String) (ts : List Token) : Prop :=
  ∀ ⦃cs⦄, d.Fresh cs →
    d.tokensFrom .outside (text.toList ++ cs) = (d.tokensFrom .outside cs).map (ts ++ ·)

theorem tokensFrom_free (free : mark.all unmarked = true) (cs : List Char) :
    d.tokensFrom .outside (mark ++ cs)
      = (d.tokensFrom .outside cs).map (mark.map Token.char ++ ·) := by
  induction mark with
  | nil => simp
  | cons c mark ih =>
      rw [List.all_cons,Bool.and_eq_true] at free
      have outside := unmarked_plain (d := d) free.1
      rw [Dialect.isMark,Bool.or_eq_false_iff] at outside
      simp [Dialect.tokensFrom,Dialect.advance,Dialect.enter,outside,ih free.2,Function.comp_def]

theorem fresh_free {first : Char} (free : (first :: mark).all unmarked = true) (cs : List Char) :
    d.Fresh (first :: mark ++ cs) := by
  rintro _ ⟨⟩
  rw [List.all_cons,Bool.and_eq_true] at free
  exact unmarked_plain free.1

namespace Spells

theorem free (free : mark.all unmarked = true) :
    Spells d (String.ofList mark) (mark.map .char) := by
  intro cs _
  rw [String.toList_ofList,tokensFrom_free free]

theorem identifier (name : String) : Spells d (d.quoteIdentifier name) [.identifier name.toList] :=
  fun _ fresh => Dialect.tokensFrom_identifier fresh

theorem string (text : String) : Spells d (d.quoteString text) [.string text.toList] :=
  fun _ fresh => Dialect.tokensFrom_string fresh

theorem behind (second : Spells d b us) (free : mark.all unmarked = true) :
    Spells d (String.ofList mark ++ b) (mark.map .char ++ us) := by
  intro cs fresh
  rw [String.toList_append,String.toList_ofList,List.append_assoc,tokensFrom_free free,second fresh,
    Option.map_map]
  simp [Function.comp_def]

theorem joined {first : Char} (left : Spells d a ts) (right : Spells d b us)
    (free : (first :: mark).all unmarked = true) :
    Spells d (a ++ String.ofList (first :: mark) ++ b)
      (ts ++ ((first :: mark).map .char ++ us)) := by
  intro cs fresh
  have after := right.behind free fresh
  rw [String.toList_append,String.toList_ofList,List.append_assoc] at after
  have apart : d.Fresh (first :: mark ++ (b.toList ++ cs)) := fresh_free free _
  rw [String.toList_append,String.toList_append,String.toList_ofList,List.append_assoc,
    List.append_assoc,left apart,after,Option.map_map]
  simp [Function.comp_def]

theorem closed (left : Spells d a ts) (free : mark.all unmarked = true) :
    Spells d (a ++ String.ofList mark) (ts ++ mark.map .char) := by
  cases mark with
  | nil => simpa using left
  | cons first mark =>
      have empty : Spells d "" [] := fun _ _ => by simp
      simpa using left.joined empty free

theorem whole (spells : Spells d a ts) : d.tokens a = some ts := by
  have free : d.Fresh [] := fun _ none => nomatch none
  have read := spells free
  rw [List.append_nil] at read
  simp [Dialect.tokens,read,Dialect.tokensFrom,Dialect.finish]

end Spells

def Operand.tokens (d : Dialect) : Operand → List Token
  | .column name => [.identifier name]
  | .moment text => d.momentMark.map .char ++ .string text :: d.momentEnd.map .char

theorem operand_tokens (a : Operand) (rest : List Token) :
    d.operand? (a.tokens d ++ rest) = some (a,rest) := by
  cases a with
  | column name => rfl
  | moment text =>
      have marked : strip d.momentMark (Operand.tokens d (.moment text) ++ rest)
          = some (.string text :: (d.momentEnd.map .char ++ rest)) := by
        simpa [Operand.tokens] using
          strip_chars d.momentMark (.string text :: (d.momentEnd.map .char ++ rest))
      unfold Dialect.operand?
      split
      · rename_i name others shape
        unfold Operand.tokens Dialect.momentMark at shape
        cases family : d.family <;> simp [family] at shape
      · rw [marked]
        simp only [strip_chars,Option.map_some]

theorem strip_operand {a : Operand}
    (other : mark ∈ [notMark,['('],nullMark,d.truthMark true,d.truthMark false]) :
    strip mark (a.tokens d ++ rest) = none := by
  simp only [List.mem_cons,List.not_mem_nil,or_false] at other
  unfold Operand.tokens Dialect.momentMark
  unfold Dialect.truthMark at other
  cases a <;> cases family : d.family <;> rw [family] at other <;>
    rcases other with rfl | rfl | rfl | rfl | rfl <;> rfl

theorem operand_present {x : Operand} (spells : Spells d a (x.tokens d)) :
    (a == Dialect.null) = false := by
  refine beq_eq_false_iff_ne.mpr ?_
  rintro rfl
  have word : Spells d Dialect.null (nullMark.map .char) := .free (by decide)
  have same : x.tokens d = nullMark.map .char := Option.some.inj (spells.whole.symm.trans word.whole)
  have marked := strip_chars nullMark []
  rw [← same,strip_operand (by simp)] at marked
  cases marked

theorem comparison_mark (op : Comparison) (a : Operand) (rest : List Token) :
    comparison? (op.mark.map .char ++ (a.tokens d ++ rest)) = some (op,a.tokens d ++ rest) := by
  unfold Operand.tokens Dialect.momentMark
  cases op <;> cases a <;> cases d.family <;> rfl

theorem mark_free (op : Comparison) : op.mark.all unmarked = true := by
  cases op <;> decide

-- A text that is read as one term, whatever follows it.
def Denotes (d : Dialect) (text : String) (c : Condition) : Prop :=
  ∃ ts, Spells d text ts ∧ ∀ fuel rest, ts.length ≤ fuel → d.term? fuel (ts ++ rest) = some (c,rest)

-- A text that is read as terms with AND between them, unless another one follows.
def Conjoined (d : Dialect) (text : String) (c : Condition) : Prop :=
  ∃ ts, Spells d text ts ∧ ∀ fuel rest, ts.length < fuel → strip andMark rest = none →
    d.conjunction? fuel (ts ++ rest) = some (c,rest)

theorem denotes_constant (value : Bool) : Denotes d (d.formatBool value) (.constant value) := by
  have written : d.formatBool value = String.ofList (d.truthMark value) := by
    unfold Dialect.formatBool Dialect.truthMark
    cases d.family <;> cases value <;> rfl
  have unmarked : (d.truthMark value).all unmarked = true := by
    unfold Dialect.truthMark
    cases d.family <;> cases value <;> decide
  rw [written]
  refine ⟨_,.free unmarked,fun fuel rest enough => ?_⟩
  obtain ⟨fuel,rfl⟩ : ∃ less, fuel = less + 1 := by
    refine Nat.exists_eq_add_one.mpr (Nat.lt_of_lt_of_le ?_ enough)
    unfold Dialect.truthMark
    cases d.family <;> cases value <;> decide
  have marks : strip notMark ((d.truthMark value).map .char ++ rest) = none ∧
      strip ['('] ((d.truthMark value).map .char ++ rest) = none ∧
      (value = false → strip (d.truthMark true) ((d.truthMark value).map .char ++ rest) = none) := by
    unfold Dialect.truthMark
    cases d.family <;> cases value <;> simp [strip,notMark]
  have here := strip_chars (d.truthMark value) rest
  simp only [Dialect.term?,marks.1,marks.2.1,Dialect.simple?]
  cases value with
  | true => simp only [here]
  | false => simp only [here,marks.2.2]

theorem denotes_compare {x y : Operand} (op : Comparison) (left : Spells d a (x.tokens d))
    (right : Spells d b (y.tokens d)) :
    Denotes d (a ++ String.ofList op.mark ++ b) (.compare op x y) := by
  obtain ⟨first,mark,shape⟩ : ∃ first mark, op.mark = first :: mark := by
    cases op <;> exact ⟨_,_,rfl⟩
  have spells := left.joined right (shape ▸ mark_free op)
  rw [← shape] at spells
  refine ⟨_,spells,fun fuel rest enough => ?_⟩
  obtain ⟨fuel,rfl⟩ : ∃ less, fuel = less + 1 := by
    refine Nat.exists_eq_add_one.mpr (Nat.lt_of_lt_of_le ?_ enough)
    simp only [shape,List.length_append,List.length_map,List.length_cons]
    omega
  rw [List.append_assoc,List.append_assoc]
  simp only [Dialect.term?,Dialect.simple?,strip_operand,operand_tokens,comparison_mark,
    List.mem_cons,true_or,or_true,Option.bind_eq_bind,Option.bind_some]

theorem Denotes.alone (one : Denotes d a c) : Conjoined d a c := by
  obtain ⟨ts,spells,reads⟩ := one
  refine ⟨ts,spells,fun fuel rest enough last => ?_⟩
  obtain ⟨fuel,rfl⟩ := Nat.exists_eq_add_one.mpr (Nat.zero_lt_of_lt enough)
  simp only [Dialect.conjunction?,reads fuel rest (Nat.le_of_lt_succ enough),last,
    Option.bind_eq_bind,Option.bind_some]

theorem Denotes.and (first : Denotes d a c) (others : Conjoined d b e) :
    Conjoined d (a ++ " AND " ++ b) (.both c e) := by
  obtain ⟨ts,spells,reads⟩ := first
  obtain ⟨us,further,more⟩ := others
  have free : andMark.all unmarked = true := by decide
  refine ⟨_,spells.joined further free,fun fuel rest enough last => ?_⟩
  simp only [List.length_append,List.length_map,List.length_cons] at enough
  obtain ⟨fuel,rfl⟩ := Nat.exists_eq_add_one.mpr (Nat.zero_lt_of_lt enough)
  have here := reads fuel (andMark.map .char ++ (us ++ rest)) (by omega)
  have there := more fuel rest (by omega) last
  rw [List.append_assoc,List.append_assoc]
  change d.conjunction? (fuel + 1) (ts ++ (andMark.map .char ++ (us ++ rest))) = _
  simp only [Dialect.conjunction?,here,there,strip_chars,Option.bind_eq_bind,Option.bind_some]

-- Between an opening and a parenthesis the terms are read with less fuel.
theorem Conjoined.enclosed (inside : Conjoined d a c) (free : mark.all unmarked = true)
    (opens : mark ≠ []) : ∃ ts, Spells d (String.ofList mark ++ a ++ ")") ts ∧
      ∀ fuel rest, ts.length ≤ fuel → ∃ less inner, fuel = less + 1 ∧
        ts ++ rest = mark.map .char ++ inner ∧
        d.conjunction? less inner = some (c,.char ')' :: rest) := by
  obtain ⟨ts,spells,reads⟩ := inside
  have last : [')'].all unmarked = true := by decide
  refine ⟨_,(spells.behind free).closed last,fun fuel rest enough => ?_⟩
  have longer : 0 < mark.length := List.length_pos_iff.mpr opens
  simp only [List.length_append,List.length_map,List.length_singleton] at enough
  obtain ⟨less,rfl⟩ : ∃ less, fuel = less + 1 := Nat.exists_eq_add_one.mpr (by omega)
  exact ⟨less,ts ++ .char ')' :: rest,rfl,by simp,reads less _ (by omega) rfl⟩

theorem Conjoined.grouped (inside : Conjoined d a c) : Denotes d ("(" ++ a ++ ")") c := by
  have free : ['('].all unmarked = true := by decide
  obtain ⟨ts,spells,reads⟩ := inside.enclosed free (by decide)
  refine ⟨ts,spells,fun fuel rest enough => ?_⟩
  obtain ⟨less,inner,rfl,shape,read⟩ := reads fuel rest enough
  have other : strip notMark (.char '(' :: inner) = none := rfl
  have opened : strip ['('] (.char '(' :: inner) = some inner := rfl
  have closed : strip [')'] (.char ')' :: rest) = some rest := rfl
  rw [shape]
  simp only [List.map_cons,List.map_nil,List.cons_append,List.nil_append,Dialect.term?,other,opened,
    read,closed,Option.bind_eq_bind,Option.bind_some]

theorem Conjoined.negated (inside : Conjoined d a c) : Denotes d ("NOT(" ++ a ++ ")") (.not c) := by
  have free : notMark.all unmarked = true := by decide
  obtain ⟨ts,spells,reads⟩ := inside.enclosed free (by decide)
  refine ⟨ts,spells,fun fuel rest enough => ?_⟩
  obtain ⟨less,inner,rfl,shape,read⟩ := reads fuel rest enough
  have closed : strip [')'] (.char ')' :: rest) = some rest := rfl
  simp only [shape,Dialect.term?,strip_chars,read,closed,Option.bind_eq_bind,Option.bind_some]

theorem Conjoined.reads (whole : Conjoined d a c) : d.condition? a = some c := by
  obtain ⟨ts,spells,reads⟩ := whole
  have read := reads (ts.length + 1) [] (Nat.lt_succ_self _) rfl
  rw [List.append_nil] at read
  simp [Dialect.condition?,spells.whole,read]

example : Family.mySql.dialect.condition? "(1 AND NOT(0))"
    = some (.both (.constant true) (.not (.constant false))) := by
  decide +kernel

end Reading

section Timestamps

open Time (Instant)

variable {d : Dialect} {t : Instant}

def Dialect.momentText (d : Dialect) (t : Instant) : String :=
  match d.family with
  | .presto => t.millisText
  | .bigQuery => t.millisText
  | .postgres => naiveTimestamp t
  | .mySql => naiveTimestamp t

def Dialect.momentOf (d : Dialect) (t : Instant) : Operand :=
  .moment (d.momentText t).toList

theorem Spells.timestamp (t : Instant) :
    Spells d (d.timeToSql (some t)) ((d.momentOf t).tokens d) := by
  have plain : Plain (d.momentText t) := by
    unfold Dialect.momentText
    cases d.family
    · exact (millis_clean t).plain
    · exact (millis_clean t).plain
    · exact (naive_clean t).plain
    · exact (naive_clean t).plain
  have marks : d.momentMark.all unmarked = true ∧ d.momentEnd.all unmarked = true := by
    unfold Dialect.momentMark Dialect.momentEnd
    cases d.family <;> decide
  have written : d.timeToSql (some t) = String.ofList d.momentMark
      ++ d.quoteString (d.momentText t) ++ String.ofList d.momentEnd := by
    rw [quoteString_plain plain]
    apply String.toList_injective
    simp only [Dialect.timeToSql,Dialect.momentMark,Dialect.momentText,Dialect.momentEnd]
    cases d.family <;> simp
  rw [written]
  simpa [Operand.tokens,Dialect.momentOf] using
    ((Spells.string (d.momentText t)).behind marks.1).closed marks.2

end Timestamps

end OlapQuery.Sql
