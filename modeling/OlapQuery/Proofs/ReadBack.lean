import OlapQuery.Proofs.WrittenFormulas

-- The text of a formula, read back. It is read as what the formula is written as, and so as the
-- formula itself if and only if the formula is safe.

namespace OlapQuery.Sql

-- The text is read as these operands wherever an operand may stand.
def Reads (d : Dialect) (text : String) (w : Written) : Prop :=
  ∀ l outer rest, Clear rest →
    readFrom d.identifierMark (.want l 0 outer) .outside (text.toList ++ rest)
      = readFrom d.identifierMark
          (.done (l.through w.first w.rest).1 (l.through w.first w.rest).2 outer) .outside rest

def Stuck (d : Dialect) (text : String) : Prop :=
  ∀ l outer rest, Clear rest → '\n' ∉ rest →
    readFrom d.identifierMark (.want l 0 outer) .outside (text.toList ++ rest) = none

-- Whether a text without line breaks is read, and as what.
def Gives (d : Dialect) (text : String) : Option Written → Prop
  | some w => Reads d text w
  | none => '\n' ∉ text.toList → Stuck d text

section Texts

variable {d : Dialect} {a b text : String} {v w : Written} {x y : Option Written}

theorem clear_cons {c : Char} {rest : List Char} (parted : parts c = true) : Clear (c :: rest) := by
  intro other first
  cases first
  exact parted

theorem clear_closing (rest : List Char) : Clear (")".toList ++ rest) :=
  clear_cons rfl

theorem clear_comma (rest : List Char) : Clear (", ".toList ++ rest) :=
  clear_cons rfl

theorem clear_dash (rest : List Char) : Clear ("-".toList ++ rest) :=
  clear_cons rfl

-- How an operator is written, and that it does not run into what follows.
structure Spelling (op : Operation) (sign : String) (after : List Char) : Prop where
  parted : ∀ rest, Clear (sign.toList ++ rest)
  reads : ∀ d : Dialect, ∀ l t outer rest,
    readFrom d.identifierMark (.done l t outer) .outside (sign.toList ++ (after ++ rest))
      = readFrom d.identifierMark (.want (l.push t op) 0 outer) .outside (after ++ rest)

theorem Reads.append {op : Operation} {sign : String} (first : Reads d a v) (second : Reads d b w)
    (spelled : Spelling op sign b.toList) : Reads d (a ++ sign ++ b) (v.append op w) := by
  intro l outer rest clear
  rw [String.toList_append,String.toList_append,List.append_assoc,List.append_assoc,
    first _ _ _ (spelled.parted _),spelled.reads,second _ _ _ clear,Written.append,
    Level.through_append]

theorem Gives.append {op : Operation} {sign : String} (first : Gives d a x) (second : Gives d b y)
    (spelled : Spelling op sign b.toList) :
    Gives d (a ++ sign ++ b) (do return (← x).append op (← y)) := by
  cases x with
  | none =>
      intro unbroken l outer rest clear later
      simp only [String.toList_append,List.mem_append,not_or] at unbroken
      rw [String.toList_append,String.toList_append,List.append_assoc,List.append_assoc]
      refine first unbroken.1.1 l outer _ (spelled.parted _) ?_
      simp [unbroken,later]
  | some v =>
      cases y with
      | none =>
          intro unbroken l outer rest clear later
          simp only [String.toList_append,List.mem_append,not_or] at unbroken
          rw [String.toList_append,String.toList_append,List.append_assoc,List.append_assoc,
            first _ _ _ (spelled.parted _),spelled.reads]
          exact second unbroken.2 _ _ _ clear later
      | some w => exact Reads.append first second spelled

theorem Gives.call {opening : String} {f : Term → Term} (inner : Gives d a x) (call : Call)
    (opens : ∀ l outer rest, readFrom d.identifierMark (.want l 0 outer) .outside (opening.toList ++ rest)
      = readFrom d.identifierMark (.want {} 0 ({ call,level := l,minus := 0 } :: outer)) .outside rest)
    (applies : ∀ t, call.apply [t] = some (f t)) :
    Gives d (opening ++ a ++ ")") (do return { first := f (← x).term }) := by
  cases x with
  | none =>
      intro unbroken l outer rest clear later
      simp only [String.toList_append,List.mem_append,not_or] at unbroken
      rw [String.toList_append,String.toList_append,List.append_assoc,List.append_assoc,opens]
      refine inner unbroken.1.2 _ _ _ (clear_closing _) ?_
      simp [later]
  | some w =>
      intro l outer rest clear
      rw [String.toList_append,String.toList_append,List.append_assoc,List.append_assoc,opens,
        inner _ _ _ (clear_closing _)]
      change readFrom _ _ _ (')' :: rest) = _
      rw [readFrom_symbol rfl]
      simp [State.step,applies,negated,Level.through,Written.term,Level.read]

theorem Gives.group (inner : Gives d a x) :
    Gives d ("(" ++ a ++ ")") (do return { first := (← x).term }) :=
  inner.call .group (fun _ _ _ => rfl) (fun _ => rfl)

theorem Gives.floor (inner : Gives d a x) :
    Gives d ("FLOOR(" ++ a ++ ")") (do return { first := .floor (← x).term }) :=
  inner.call .floor (fun _ _ _ => rfl) (fun _ => rfl)

theorem Gives.pair {opening : String} {f : Term → Term → Term} (first : Gives d a x)
    (second : Gives d b y) (call : Call)
    (opens : ∀ l outer rest, readFrom d.identifierMark (.want l 0 outer) .outside (opening.toList ++ rest)
      = readFrom d.identifierMark (.want {} 0 ({ call,level := l,minus := 0 } :: outer)) .outside rest)
    (applies : ∀ t u, call.apply [t,u] = some (f t u)) :
    Gives d (opening ++ a ++ ", " ++ b ++ ")")
      (do return { first := f (← x).term (← y).term }) := by
  have next (l : Level) (t : Term) (o : Open) (outer : List Open) (rest : List Char) :
      readFrom d.identifierMark (.done l t (o :: outer)) .outside (", ".toList ++ rest)
        = readFrom d.identifierMark
            (.want {} 0 ({ o with given := o.given ++ [l.close t] } :: outer)) .outside rest := rfl
  cases x with
  | none =>
      intro unbroken l outer rest clear later
      simp only [String.toList_append,List.mem_append,not_or] at unbroken
      simp only [String.toList_append,List.append_assoc]
      rw [opens]
      refine first unbroken.1.1.1.2 _ _ _ (clear_comma _) ?_
      simp [unbroken,later]
  | some v =>
      cases y with
      | none =>
          intro unbroken l outer rest clear later
          simp only [String.toList_append,List.mem_append,not_or] at unbroken
          simp only [String.toList_append,List.append_assoc]
          rw [opens,first _ _ _ (clear_comma _),next]
          refine second unbroken.1.2 _ _ _ (clear_closing _) ?_
          simp [later]
      | some w =>
          intro l outer rest clear
          simp only [String.toList_append,List.append_assoc]
          rw [opens,first _ _ _ (clear_comma _),next,second _ _ _ (clear_closing _)]
          change readFrom _ _ _ (')' :: rest) = _
          rw [readFrom_symbol rfl]
          simp [State.step,applies,negated,Level.through,Written.term,Level.read]

-- The rest of the line after two dashes is lost, and with it the end of the group.
theorem Gives.comment {after : List Char} (first : Gives d a x) (dash : b.toList = '-' :: after) :
    Gives d ("(" ++ a ++ "-" ++ b ++ ")") none := by
  intro unbroken l outer rest clear later
  simp only [String.toList_append,List.mem_append,not_or] at unbroken
  simp only [String.toList_append,List.append_assoc]
  rw [show ∀ after, readFrom d.identifierMark (.want l 0 outer) .outside ("(".toList ++ after)
    = readFrom d.identifierMark (.want {} 0 ({ call := .group,level := l,minus := 0 } :: outer))
      .outside after from fun _ => rfl]
  cases x with
  | none =>
      refine first unbroken.1.1.1.2 _ _ _ (clear_dash _) ?_
      simp [unbroken,later]
  | some v =>
      rw [first _ _ _ (clear_dash _),dash]
      rw [dash] at unbroken
      change readFrom _ _ .comment (after ++ (")".toList ++ rest)) = none
      rw [readFrom_comment]
      · rfl
      · simp only [List.mem_cons,not_or] at unbroken
        simp [unbroken,later]

section Numbers

theorem denoted_numeral {α : Type} {numeral : List Char → α} {negate : α → α} {text : List Char}
    (shape : Decimal.Numeral text) : denoted numeral negate text = numeral text := by
  unfold denoted
  split
  · exact absurd rfl (shape.head [])
  · rfl

theorem number_gives (x : Float) : Gives d (Dialect.formatNumber x) (Written.ofNumber? x) := by
  unfold Written.ofNumber? Dialect.formatNumber
  split
  · rename_i finite
    intro l outer rest clear
    rcases Decimal.numberText_signed finite.1 finite.2 with shape | ⟨text,shape,is⟩
    · rw [readFrom_text shape clear,denoted_numeral shape]
      rfl
    · rw [is]
      change readFrom _ _ .dash (text ++ rest) = _
      rw [readFrom_dash (shape.head rest)]
      change readFrom _ (.want l 1 outer) _ _ = _
      rw [readFrom_text shape clear]
      rfl
  · rename_i infinite
    intro unbroken l outer rest clear later
    rcases Decimal.numberText_word infinite with is | is | is
    · rw [is]
      change readFrom _ _ (.word ['N','a','N']) rest = none
      rw [readFrom_word clear]
      rfl
    · rw [is]
      change readFrom _ _ (.word ['i','n','f']) rest = none
      rw [readFrom_word clear]
      rfl
    · rw [is]
      change readFrom _ (.want l 1 outer) (.word ['i','n','f']) rest = none
      rw [readFrom_word clear]
      rfl

theorem one_gives : Gives d "1" (some { first := .numeral ['1'] }) := by
  have shape : Decimal.Numeral ['1'] :=
    Decimal.Digits.numeral ⟨List.cons_ne_nil _ _,by simp⟩
  intro l outer rest clear
  exact readFrom_text shape clear

end Numbers

theorem Spelling.spaced (op : Operation) {after : List Char} :
    Spelling op (" " ++ op.sign ++ " ") after := by
  cases op <;> exact ⟨fun _ => clear_cons rfl,fun _ _ _ _ _ => rfl⟩

theorem Spelling.bare {op : Operation} {after : List Char}
    (apart : op = .subtract → ∀ rest, (after ++ rest).head? ≠ some '-') :
    Spelling op op.sign after := by
  cases op with
  | add => exact ⟨fun _ => clear_cons rfl,fun _ _ _ _ _ => rfl⟩
  | multiply => exact ⟨fun _ => clear_cons rfl,fun _ _ _ _ _ => rfl⟩
  | divide => exact ⟨fun _ => clear_cons rfl,fun _ _ _ _ _ => rfl⟩
  | subtract =>
      refine ⟨fun _ => clear_cons rfl,fun d l t outer rest => ?_⟩
      exact readFrom_dash (apart rfl rest)

namespace Formula

theorem text_signed {φ : Formula} (signed : φ.kind = .signed) :
    ∃ after, (φ.text d).toList = '-' :: after := by
  cases φ with
  | number x =>
      have sign : hasSign x = true := by
        by_contra none
        simp [kind,none] at signed
      exact List.head?_eq_some_iff.mp (beq_iff_eq.mp sign)
  | bucket a size offset =>
      simp only [kind] at signed
      split at signed <;> cases signed
  | column name => cases signed
  | compute op a b => cases signed
  | indexOf a b => cases signed

theorem text_unsigned {φ : Formula} (plain : φ.kind ≠ .signed) (rest : List Char) :
    ((φ.text d).toList ++ rest).head? ≠ some '-' := by
  cases φ with
  | column name =>
      have other : d.identifierMark ≠ '-' := by
        unfold Dialect.identifierMark
        cases d.family <;> decide
      simp [text,Dialect.quoteIdentifier,enclosed,other]
  | number x =>
      have sign : (Decimal.numberText x).toList.head? ≠ some '-' := by
        intro head
        exact plain (by simp [kind,hasSign,head])
      simp only [text,Dialect.formatNumber]
      by_cases finite : Finite x
      · rcases Decimal.numberText_signed finite.1 finite.2 with shape | ⟨more,-,is⟩
        · exact shape.head rest
        · exact absurd (by rw [is]; rfl) sign
      · rcases Decimal.numberText_word finite with is | is | is
        · simp [is]
        · simp [is]
        · exact absurd (by rw [is]; rfl) sign
  | compute op a b => simp [text]
  | bucket a size offset =>
      unfold text Renderer.numberBucket
      dsimp only
      split <;> simp
  | indexOf a b =>
      unfold text Dialect.indexOf
      split <;> simp

theorem written_gives (φ : Formula) : Gives d (φ.text d) φ.written? := by
  induction φ with
  | column name =>
      intro l outer rest clear
      exact readFrom_identifier clear
  | number x => exact number_gives x
  | compute op a b left right =>
      by_cases comment : op = .subtract ∧ b.kind = .signed
      · obtain ⟨after,dash⟩ := text_signed comment.2 (d := d)
        have lost : (Formula.compute op a b).written? = none := by
          simp only [written?,comment]
          cases a.written? <;> cases b.written? <;> rfl
        rw [lost,text,comment.1]
        exact left.comment dash
      · have spelled : Spelling op op.sign (b.text d).toList :=
          .bare fun is rest => text_unsigned (fun signed => comment ⟨is,signed⟩) rest
        have grouped := (left.append right spelled).group
        have same : "(" ++ (a.text d ++ op.sign ++ b.text d) ++ ")" = (Formula.compute op a b).text d := by
          simp only [text,String.append_assoc]
        rw [same] at grouped
        simp only [written?,comment,if_false]
        revert grouped
        cases a.written? <;> cases b.written? <;> exact id
  | bucket a size offset ih =>
      have width : Gives d (Dialect.formatNumber size) (Written.ofNumber? size) := number_gives size
      have shift : Gives d (Dialect.formatNumber offset) (Written.ofNumber? offset) :=
        number_gives offset
      simp only [text,Renderer.numberBucket,written?]
      split
      · have start := ((ih.append width (.spaced .divide)).floor).append width (.spaced .multiply)
        have same : "FLOOR(" ++ (a.text d ++ (" " ++ Operation.divide.sign ++ " ")
              ++ Dialect.formatNumber size) ++ ")" ++ (" " ++ Operation.multiply.sign ++ " ")
              ++ Dialect.formatNumber size
            = "FLOOR(" ++ a.text d ++ " / " ++ Dialect.formatNumber size ++ ") * "
              ++ Dialect.formatNumber size := by
          apply String.toList_injective
          simp [Operation.sign]
        rw [same] at start
        revert start
        cases a.written? <;> cases Written.ofNumber? size <;> exact id
      · have moved := (ih.append shift (.spaced .subtract)).group
        have start := ((moved.append width (.spaced .divide)).floor).append width (.spaced .multiply)
        have back := start.append shift (.spaced .add)
        have same : "FLOOR(" ++ ("(" ++ (a.text d ++ (" " ++ Operation.subtract.sign ++ " ")
              ++ Dialect.formatNumber offset) ++ ")" ++ (" " ++ Operation.divide.sign ++ " ")
              ++ Dialect.formatNumber size) ++ ")" ++ (" " ++ Operation.multiply.sign ++ " ")
              ++ Dialect.formatNumber size ++ (" " ++ Operation.add.sign ++ " ")
              ++ Dialect.formatNumber offset
            = "FLOOR((" ++ a.text d ++ " - " ++ Dialect.formatNumber offset ++ ") / "
              ++ Dialect.formatNumber size ++ ") * " ++ Dialect.formatNumber size ++ " + "
              ++ Dialect.formatNumber offset := by
          apply String.toList_injective
          simp [Operation.sign]
        rw [same] at back
        revert back
        cases a.written? <;> cases Written.ofNumber? size <;> cases Written.ofNumber? offset <;>
          exact id
  | indexOf a b left right =>
      have last (found : String) : found ++ (" " ++ Operation.subtract.sign ++ " ") ++ "1"
          = found ++ " - 1" := by
        apply String.toList_injective
        simp [Operation.sign]
      have ending (opening x y : String) : opening ++ x ++ ", " ++ y ++ ")" ++ " - 1"
          = opening ++ x ++ ", " ++ y ++ ") - 1" := by
        apply String.toList_injective
        simp
      simp only [text,Dialect.indexOf,written?]
      split
      · have call : Gives d ("LOCATE(" ++ b.text d ++ ", " ++ a.text d ++ ")") _ :=
          right.pair left .locate (fun _ _ _ => rfl) (fun _ _ => rfl)
        have index := call.append one_gives (.spaced .subtract)
        rw [last,ending] at index
        revert index
        cases a.written? <;> cases b.written? <;> exact id
      · have call : Gives d ("STRPOS(" ++ a.text d ++ ", " ++ b.text d ++ ")") _ :=
          left.pair right .strpos (fun _ _ _ => rfl) (fun _ _ => rfl)
        have index := call.append one_gives (.spaced .subtract)
        rw [last,ending] at index
        revert index
        cases a.written? <;> cases b.written? <;> exact id

theorem text_unbroken {φ : Formula} (names : ∀ name ∈ φ.columns, '\n' ∉ name.toList) :
    '\n' ∉ (φ.text d).toList := by
  have number (x : Float) : '\n' ∉ (Dialect.formatNumber x).toList := by
    intro listed
    rcases Decimal.numberText_chars listed with digit | other
    · cases digit
    · revert other
      decide
  induction φ with
  | column name =>
      have mark : '\n' ≠ d.identifierMark := by
        unfold Dialect.identifierMark
        cases d.family <;> decide
      have kept : '\n' ∉ doubled d.identifierMark name.toList := by
        intro listed
        obtain ⟨c,inside,is⟩ := List.mem_flatMap.mp listed
        split at is
        · simp [mark] at is
        · cases List.mem_singleton.mp is
          exact names name (List.mem_singleton_self name) inside
      simp [text,Dialect.quoteIdentifier,enclosed,mark,kept]
  | number x => exact number x
  | compute op a b left right =>
      have first := left fun name listed => names name (List.mem_append_left _ listed)
      have second := right fun name listed => names name (List.mem_append_right _ listed)
      cases op <;> simp [text,Operation.sign,first,second]
  | bucket a size offset ih =>
      have inner := ih names
      unfold text Renderer.numberBucket
      dsimp only
      split <;> simp [inner,number]
  | indexOf a b left right =>
      have first := left fun name listed => names name (List.mem_append_left _ listed)
      have second := right fun name listed => names name (List.mem_append_right _ listed)
      unfold text Dialect.indexOf
      split <;> simp [first,second]

theorem read_written {φ : Formula} {w : Written} (written : φ.written? = some w) :
    d.read (φ.text d) = some w.term := by
  have gives := written_gives φ (d := d)
  rw [written] at gives
  have whole := gives {} [] [] (fun c none => by cases none)
  rw [List.append_nil] at whole
  exact whole

theorem read_unwritten {φ : Formula} (names : ∀ name ∈ φ.columns, '\n' ∉ name.toList)
    (unwritten : φ.written? = none) : d.read (φ.text d) = none := by
  have gives := written_gives φ (d := d)
  rw [unwritten] at gives
  have whole := gives (text_unbroken names) {} [] [] (fun c none => by cases none) (by simp)
  rw [List.append_nil] at whole
  exact whole

-- The term that is meant has the value of the formula in every arithmetic, not only in the free
-- one: numbers are written as they are read.
theorem meant_value {α : Type} (A : Arithmetic α) (row : String → α) {φ : Formula}
    (safe : φ.Safe) : φ.meant.value A row = φ.value A row := by
  have number {x : Float} (finite : Finite x) : (free.number x).value A row = A.number x := by
    rw [← A.reads x finite.1 finite.2]
    change (denoted Term.numeral Term.negate _).value A row = _
    unfold denoted
    split <;> rfl
  have one : Finite 1.0 := by decide +kernel
  induction φ with
  | column name =>
      change row (String.ofList name.toList) = row name
      rw [String.ofList_toList]
  | number x => exact number safe
  | compute op a b left right =>
      change A.compute op (a.meant.value A row) (b.meant.value A row) = _
      rw [left safe.1,right safe.2.1,value]
  | bucket a size offset ih =>
      obtain ⟨inner,width,shift,-⟩ := safe
      unfold meant value
      dsimp only
      split
      · change A.compute .multiply (A.floor (A.compute .divide (a.meant.value A row)
          ((free.number size).value A row))) ((free.number size).value A row) = _
        rw [ih inner,number width]
      · change A.compute .add (A.compute .multiply (A.floor (A.compute .divide
          (A.compute .subtract (a.meant.value A row) ((free.number offset).value A row))
          ((free.number size).value A row))) ((free.number size).value A row))
          ((free.number offset).value A row) = _
        rw [ih inner,number width,number shift]
  | indexOf a b left right =>
      change A.compute .subtract (A.position (a.meant.value A row) (b.meant.value A row))
        ((free.number 1.0).value A row) = _
      rw [left safe.1,right safe.2,number one,value]

theorem free_value (t : Term) : t.value free (fun name => .column name.toList) = t := by
  induction t with
  | column name => exact congrArg Term.column String.toList_ofList
  | numeral text => rfl
  | negate t ih => exact congrArg Term.negate ih
  | compute op a b left right => exact congrArg₂ (Term.compute op) left right
  | floor t ih => exact congrArg Term.floor ih
  | position a b left right => exact congrArg₂ Term.position left right

-- The text is read as a term that is worth the same as the formula, on every row and whatever
-- the operations of the engine are.
def ReadsBack (d : Dialect) (φ : Formula) (text : String) : Prop :=
  ∃ t, d.read text = some t ∧
    ∀ (α : Type) (A : Arithmetic α) (row : String → α), t.value A row = φ.value A row

end Formula

end Texts

theorem read_back_safe (family : Family) (dataset : Dataset) {φ : Formula} {text : String}
    (rendered : ({ dialect := family.dialect,dataset } : Renderer).render φ.expr = .ok text) :
    (φ.Safe → φ.ReadsBack family.dialect text) ∧
      ((∀ name ∈ φ.columns, '\n' ∉ name.toList) → φ.ReadsBack family.dialect text → φ.Safe) := by
  cases Formula.render_text rendered
  constructor
  · intro safe
    obtain ⟨w,written,same⟩ := φ.written_exact.mpr safe
    refine ⟨w.term,Formula.read_written written,fun α A row => ?_⟩
    rw [same]
    exact Formula.meant_value A row safe
  · rintro names ⟨t,read,same⟩
    cases written : φ.written? with
    | none =>
        rw [Formula.read_unwritten names written] at read
        cases read
    | some w =>
        rw [Formula.read_written written] at read
        cases read
        refine φ.written_exact.mp ⟨w,written,?_⟩
        rw [← Formula.free_value w.term]
        exact same Term free _

-- Exact arithmetic. A number stands nowhere in a number.
def rational : Arithmetic Rat :=
  let numeral (text : List Char) : Rat :=
    let whole := text.takeWhile Char.isDigit
    let (fraction,tail) := match text.dropWhile Char.isDigit with
      | '.' :: rest => (rest.takeWhile Char.isDigit,rest.dropWhile Char.isDigit)
      | rest => ([],rest)
    let power := (Decimal.readExponent tail).getD 0 - fraction.length
    Decimal.natOfDigits (whole ++ fraction) * (10 : Rat) ^ power
  { number := fun x => denoted numeral (- ·) (Decimal.numberText x).toList
    numeral
    negate := (- ·)
    compute := fun
      | .add => (· + ·)
      | .subtract => (· - ·)
      | .multiply => (· * ·)
      | .divide => (· / ·)
    floor := fun x => x.floor
    position := fun _ _ => 0
    reads := fun _ _ _ => rfl }

namespace Readings

def dataset : Dataset :=
  { engine := .postgres,source := "readings",attributes := [{ name := "x",type := .number }] }

def renderer : Renderer :=
  { dialect := Family.postgres.dialect,dataset }

def raised : Formula :=
  .compute .subtract (.column "x") (.number (-5.0))

def inverse : Formula :=
  .compute .divide (.number 1.0) (.bucket (.column "x") 10.0 0.0)

def lowered : Formula :=
  .compute .add (.bucket (.column "x") 10.0 2.5) (.number (-5.0))

theorem lowered_kept :
    renderer.render lowered.expr = .ok "(FLOOR((\"x\" - 2.5) / 10) * 10 + 2.5+-5)" ∧
      lowered.ReadsBack renderer.dialect "(FLOOR((\"x\" - 2.5) / 10) * 10 + 2.5+-5)" ∧
      renderer.render raised.expr = .ok "(\"x\"--5)" ∧
      ¬ raised.ReadsBack renderer.dialect "(\"x\"--5)" := by
  have kept : renderer.render lowered.expr = .ok "(FLOOR((\"x\" - 2.5) / 10) * 10 + 2.5+-5)" := by
    decide +kernel
  have safe : lowered.Safe := by
    decide +kernel
  have lost : renderer.render raised.expr = .ok "(\"x\"--5)" := by
    decide +kernel
  have unbroken : ∀ name ∈ raised.columns, '\n' ∉ name.toList := by
    decide
  have commented : ¬ raised.Safe := by
    decide +kernel
  exact ⟨kept,(read_back_safe .postgres dataset kept).1 safe,lost,
    fun back => commented ((read_back_safe .postgres dataset lost).2 unbroken back)⟩

theorem inverse_lost :
    renderer.render raised.expr = .ok "(\"x\"--5)" ∧
      renderer.dialect.read "(\"x\"--5)" = none ∧
      renderer.render inverse.expr = .ok "(1/FLOOR(\"x\" / 10) * 10)" ∧
      ¬ inverse.ReadsBack renderer.dialect "(1/FLOOR(\"x\" / 10) * 10)" ∧
      ∃ t, renderer.dialect.read "(1/FLOOR(\"x\" / 10) * 10)" = some t ∧
        t.value rational (fun _ => 25) = 5 ∧ inverse.value rational (fun _ => 25) = 1 / 20 := by
  have read : renderer.dialect.read "(1/FLOOR(\"x\" / 10) * 10)" = some (.compute .multiply
      (.compute .divide (.numeral ['1'])
        (.floor (.compute .divide (.column ['x']) (.numeral ['1','0'])))) (.numeral ['1','0'])) := by
    decide +kernel
  have meant : inverse.value rational (fun _ => 25) = 1 / 20 := by
    decide +kernel
  refine ⟨by decide +kernel,by decide +kernel,by decide +kernel,?_,_,read,by decide +kernel,meant⟩
  rintro ⟨t,again,same⟩
  cases read.symm.trans again
  have equal := (same Rat rational fun _ => 25).trans meant
  revert equal
  decide +kernel

end Readings

end OlapQuery.Sql
