import OlapQuery.Proofs.ScriptReader

-- Which texts are read as which expressions. An operand may stand without parentheses where it
-- binds tighter than what is around it: on the right of an operator more tightly than that, on
-- the left at least as tightly, behind a sign as a sign does. In front of a call, a member or an
-- index nothing but a whole expression can stand.

namespace OlapQuery.Druid.Script

-- What can follow the text of an expression without being taken for a part of it.
def Tree.stops : Tree → Char → Bool
  | .atom (.numeral _),c => !isWordPart c && c != '.'
  | .binary _ _ b,c => b.stops c
  | .signed _ t,c => t.stops c
  | _,c => !isWordPart c

def Stops (t : Tree) (rest : List Char) : Prop :=
  ∀ c ∈ rest.head?, t.stops c = true

theorem stops_plain (t : Tree) {c : Char} (plain : isWordPart c = false) (pointless : c ≠ '.') :
    t.stops c = true := by
  induction t with
  | binary op a b left right => exact right
  | signed s t ih => exact ih
  | atom a => cases a <;> simp [Tree.stops,plain,pointless]
  | _ => simp [Tree.stops,plain]

theorem Mark.stops (m : Mark) (other : m ≠ .dot) (t : Tree) (rest : List Char) :
    Stops t (m.text ++ rest) := by
  have plain : ∀ m ∈ all, m ≠ .dot →
      (m.text.head?.all fun c => !isWordPart c && c != '.') = true := by
    decide
  have known := plain m m.listed other
  intro c first
  have head : c ∈ m.text.head? := by
    revert first
    cases m with
    | operator op => cases op <;> exact id
    | _ => exact id
  have free : isWordPart c = false ∧ c ≠ '.' := by
    simpa using (Option.all_eq_true _ _).mp known c head
  exact stops_plain t free.1 free.2

def starts (c : Char) : Bool :=
  isWordStart c || c.isDigit || ['"','\'','(','[','-','!'].contains c

theorem apart_starts {m : Mark} {text : List Char} (opens : ∀ c ∈ text.head?, starts c = true)
    (single : m = .operator .subtract → text.head? ≠ some '-') : Apart m.text text := by
  intro c first
  have longer : ∀ m ∈ Mark.all, ∀ p ∈ punctuators, p.dropLast = m.text →
      (p.getLast?.all fun c => !starts c || (m == .operator .subtract && c == '-')) = true := by
    decide +kernel
  by_contra known
  have known : m.text ++ [c] ∈ punctuators := by simpa using known
  have last := (Option.all_eq_true _ _).mp (longer m m.listed _ known (by simp)) c (by simp)
  obtain ⟨minus,dash⟩ : m = .operator .subtract ∧ c = '-' := by simpa [opens c first] using last
  exact single minus (by rw [← dash]; exact first)

theorem apart_alone {m : Mark} (alone : m ∈ [.opening,.closing,.comma,.bracket,.unbracket,.colon])
    (text : List Char) : Apart m.text text := by
  intro c first
  have shorter : ∀ m ∈ [Mark.opening,.closing,.comma,.bracket,.unbracket,.colon],
      ∀ p ∈ punctuators, p.dropLast ≠ m.text := by
    decide +kernel
  by_contra known
  have known : m.text ++ [c] ∈ punctuators := by simpa using known
  exact shorter m alone _ known (by simp)

def Hole.admits : Hole → Nat → Prop
  | .left _ op,level => op.level < level
  | .sign _,level => 7 ≤ level

def Fits (holes : List Hole) (level : Nat) : Prop :=
  ∀ h ∈ holes.head?, h.admits level

theorem Fits.mono {holes : List Hole} {low high : Nat} (fits : Fits holes low) (le : low ≤ high) :
    Fits holes high := by
  intro h first
  have admits := fits h first
  cases h with
  | left t op => exact Nat.lt_of_lt_of_le admits le
  | sign s => exact Nat.le_trans admits le

-- An operator of a level that fits takes nothing away from what waits.
theorem Fits.reduced {holes : List Hole} {op : Operator} (fits : Fits holes op.level) (t : Tree) :
    reduce op.level holes t = (holes,t) := by
  have low : op.level < 7 := by cases op <;> decide
  cases holes with
  | nil => rfl
  | cons h holes =>
      have admits := fits h rfl
      cases h with
      | left u other =>
          have kept : ¬ op.level ≤ (Hole.left u other).level := Nat.not_le_of_lt admits
          rw [reduce,if_neg kept]
      | sign s =>
          have admits : 7 ≤ op.level := admits
          omega

theorem reduce_filled {level : Nat} {h : Hole} (low : level ≤ h.level) (holes : List Hole)
    (t : Tree) : reduce level (h :: holes) t = reduce level holes (h.fill t) := by
  rw [reduce,if_pos low]

-- The text of an expression: where one is wanted, it is read, and all that follows finds the
-- expression in its place.
structure Reads (t : Tree) (text : List Char) : Prop where
  opens : ∃ c ∈ text.head?, starts c = true
  whole : ∀ holes outer rest, Fits holes t.level → Stops t rest → ∃ left u,
    readFrom (.want holes outer) .outside (text ++ rest)
        = readFrom (.done left u outer) .outside rest ∧
      ∀ level ≤ t.level, reduce level left u = reduce level holes t

-- The text of an expression that nothing can be taken from.
structure Primary (t : Tree) (text : List Char) : Prop where
  level : t.level = 8
  opens : ∃ c ∈ text.head?, starts c = true
  whole : ∀ holes outer rest, Stops t rest →
    readFrom (.want holes outer) .outside (text ++ rest)
      = readFrom (.done holes t outer) .outside rest

theorem Primary.reads {t : Tree} {text : List Char} (primary : Primary t text) : Reads t text :=
  ⟨primary.opens,fun holes outer rest _ stops =>
    ⟨holes,t,primary.whole holes outer rest stops,fun _ _ => rfl⟩⟩

section Texts

variable {t a b c f : Tree} {x y z : List Char}

theorem head_append {text : List Char} (opens : ∃ c ∈ text.head?, starts c = true)
    (rest : List Char) : ∀ c ∈ (text ++ rest).head?, starts c = true := by
  obtain ⟨c,first,start⟩ := opens
  intro d head
  cases text with
  | nil => cases first
  | cons e text =>
      cases first
      cases head
      exact start

theorem opens_append {text : List Char} (opens : ∃ c ∈ text.head?, starts c = true)
    (rest : List Char) : ∃ c ∈ (text ++ rest).head?, starts c = true := by
  obtain ⟨c,first,start⟩ := opens
  refine ⟨c,?_,start⟩
  cases text with
  | nil => cases first
  | cons d text => exact first

theorem read_mark (m : Mark) {s next : State} {rest : List Char} (apart : Apart m.text rest)
    (steps : s.step (.mark m) = some next) :
    readFrom s .outside (m.text ++ rest) = readFrom next .outside rest := by
  rw [readFrom_mark m apart,steps]
  rfl

theorem Reads.until (inner : Reads t x) (m : Mark) {outer : List Frame} {next : State}
    {rest : List Char} (other : m ≠ .dot) (apart : Apart m.text rest)
    (steps : ∀ left u, close left u = t → (State.done left u outer).step (.mark m) = some next) :
    readFrom (.want [] outer) .outside (x ++ (m.text ++ rest)) = readFrom next .outside rest := by
  obtain ⟨left,u,read,same⟩ := inner.whole [] outer (m.text ++ rest) nofun (m.stops other t rest)
  have closed : close left u = t := by rw [close,same 0 (Nat.zero_le _)]; rfl
  exact read.trans (read_mark m apart (steps left u closed))

theorem Primary.group (inner : Reads t x) :
    Primary (.group t) (Mark.opening.text ++ x ++ Mark.closing.text) := by
  refine ⟨rfl,⟨'(',rfl,rfl⟩,fun holes outer rest _ => ?_⟩
  simp only [List.append_assoc]
  refine (read_mark .opening (apart_alone (by decide) _) rfl).trans ?_
  exact inner.until .closing nofun (apart_alone (by decide) _)
    fun left u closed => by rw [State.step,closed]

theorem Primary.choice (condition : Reads c x) (yes : Reads a y) (no : Reads b z) :
    Primary (.choice c a b) (Mark.opening.text ++ x ++ Mark.question.text ++ y ++ Mark.colon.text
      ++ z ++ Mark.closing.text) := by
  refine ⟨rfl,⟨'(',rfl,rfl⟩,fun holes outer rest _ => ?_⟩
  simp only [List.append_assoc]
  refine (read_mark .opening (apart_alone (by decide) _) rfl).trans ?_
  refine (condition.until .question nofun (apart_starts (head_append yes.opens _) nofun)
    fun left u closed => by rw [State.step,closed]).trans ?_
  refine (yes.until .colon nofun (apart_alone (by decide) _)
    fun left u closed => by rw [State.step,closed]).trans ?_
  exact no.until .closing nofun (apart_alone (by decide) _)
    fun left u closed => by rw [State.step,closed]

theorem Primary.member (inner : Primary t x) (whole : t.stops '.' = true) {name : List Char}
    (word : Word name) : Primary (.member t name) (x ++ Mark.dot.text ++ name) := by
  refine ⟨rfl,?_,fun holes outer rest stops => ?_⟩
  · rw [List.append_assoc]; exact opens_append inner.opens _
  · have ends : ∀ c ∈ rest.head?, isWordPart c = false := fun c first => by
      simpa [Tree.stops] using stops c first
    have named : ∀ c ∈ (name ++ rest).head?, starts c = true := by
      obtain ⟨c,more,rfl,start,-⟩ := word
      intro d first
      cases first
      simp [starts,start]
    simp only [List.append_assoc]
    refine (inner.whole holes outer _ fun c first => by cases first; exact whole).trans ?_
    refine (read_mark .dot (apart_starts named nofun) rfl).trans ?_
    rw [readFrom_word word ends]
    rfl

theorem Primary.called (inner : Primary f x) (holes : List Hole) (outer : List Frame)
    (rest : List Char) : readFrom (.want holes outer) .outside (x ++ (Mark.opening.text ++ rest))
      = readFrom (.want [] (.call f holes :: outer)) .outside rest :=
  (inner.whole holes outer _ (Mark.opening.stops nofun f rest)).trans
    (read_mark .opening (apart_alone (by decide) _) rfl)

theorem Primary.invoke (inner : Primary f x) :
    Primary (.call f) (x ++ Mark.opening.text ++ Mark.closing.text) := by
  refine ⟨rfl,?_,fun holes outer rest _ => ?_⟩
  · rw [List.append_assoc]; exact opens_append inner.opens _
  · simp only [List.append_assoc]
    exact (inner.called holes outer _).trans (read_mark .closing (apart_alone (by decide) _) rfl)

theorem Primary.apply (inner : Primary f x) (first : Reads a y) :
    Primary (.call (.argument f a)) (x ++ Mark.opening.text ++ y ++ Mark.closing.text) := by
  refine ⟨rfl,?_,fun holes outer rest _ => ?_⟩
  · simp only [List.append_assoc]; exact opens_append inner.opens _
  · simp only [List.append_assoc]
    refine (inner.called holes outer _).trans ?_
    exact first.until .closing nofun (apart_alone (by decide) _)
      fun left u closed => by rw [State.step,closed]

theorem Primary.applyBoth (inner : Primary f x) (first : Reads a y) (second : Reads b z) :
    Primary (.call (.argument (.argument f a) b)) (x ++ Mark.opening.text ++ y ++ Mark.comma.text
      ++ z ++ Mark.closing.text) := by
  refine ⟨rfl,?_,fun holes outer rest _ => ?_⟩
  · simp only [List.append_assoc]; exact opens_append inner.opens _
  · simp only [List.append_assoc]
    refine (inner.called holes outer _).trans ?_
    refine (first.until .comma nofun (apart_alone (by decide) _)
      fun left u closed => by rw [State.step,closed]).trans ?_
    exact second.until .closing nofun (apart_alone (by decide) _)
      fun left u closed => by rw [State.step,closed]

theorem Primary.index (inner : Primary t x) (place : Reads a y) :
    Primary (.index t a) (x ++ Mark.bracket.text ++ y ++ Mark.unbracket.text) := by
  refine ⟨rfl,?_,fun holes outer rest _ => ?_⟩
  · simp only [List.append_assoc]; exact opens_append inner.opens _
  · simp only [List.append_assoc]
    refine (inner.whole holes outer _ (Mark.bracket.stops nofun t _)).trans ?_
    refine (read_mark .bracket (apart_alone (by decide) _) rfl).trans ?_
    exact place.until .unbracket nofun (apart_alone (by decide) _)
      fun left u closed => by rw [State.step,closed]

def Sign.mark : Sign → Mark
  | .not => .not
  | .minus => .operator .subtract

theorem Reads.signed (s : Sign) (inner : Reads t x) (tight : 7 ≤ t.level)
    (single : s = .minus → x.head? ≠ some '-') : Reads (.signed s t) (s.mark.text ++ x) := by
  refine ⟨by cases s <;> exact ⟨_,rfl,rfl⟩,fun holes outer rest fits stops => ?_⟩
  have apart : Apart s.mark.text (x ++ rest) := by
    refine apart_starts (head_append inner.opens rest) fun minus => ?_
    have minus : s = .minus := by cases s <;> first | rfl | cases minus
    obtain ⟨c,first,-⟩ := inner.opens
    cases x with
    | nil => cases first
    | cons d x => exact single minus
  obtain ⟨left,u,read,same⟩ := inner.whole (.sign s :: holes) outer rest
    (fun h first => by cases first; exact tight) stops
  refine ⟨left,u,?_,fun level low => ?_⟩
  · rw [List.append_assoc]
    exact (read_mark s.mark apart (by cases s <;> rfl)).trans read
  · rw [same level (Nat.le_trans low tight)]
    exact reduce_filled low holes t

-- An operator between its operands, with blanks around it or not.
inductive Between (op : Operator) (right : List Char) : List Char → Prop where
  | bare (single : op = .subtract → right.head? ≠ some '-') : Between op right op.text
  | spaced : Between op right (' ' :: op.text ++ [' '])

theorem Between.plain {op : Operator} {right : List Char} (other : op ≠ .subtract) :
    Between op right op.text :=
  .bare fun minus => absurd minus other

theorem Between.reads {op : Operator} {gap : List Char} (between : Between op y gap)
    (opens : ∃ c ∈ y.head?, starts c = true) (s : State) (rest : List Char) :
    readFrom s .outside (gap ++ (y ++ rest))
      = (s.step (.mark (.operator op))).bind fun next => readFrom next .outside (y ++ rest) := by
  cases between with
  | bare single =>
      refine readFrom_mark (.operator op) (apart_starts (head_append opens rest) fun minus => ?_)
      obtain ⟨c,first,-⟩ := opens
      cases y with
      | nil => cases first
      | cons d y => exact single (Mark.operator.inj minus)
  | spaced =>
      have blank (s : State) (rest : List Char) :
          readFrom s .outside (' ' :: rest) = readFrom s .outside rest := readFrom_quiet rfl
      have apart : Apart (Mark.operator op).text (' ' :: (y ++ rest)) := by
        have whole : ∀ p ∈ punctuators, p.getLast? ≠ some ' ' := by decide +kernel
        intro c first
        cases first
        by_contra known
        exact whole _ (by simpa using known) (by simp)
      have text : ' ' :: op.text ++ [' '] ++ (y ++ rest)
          = ' ' :: ((Mark.operator op).text ++ (' ' :: (y ++ rest))) := by simp [Mark.text]
      rw [text,blank,readFrom_mark (.operator op) apart]
      exact congrArg (Option.bind _) (funext fun next => blank next (y ++ rest))

theorem Between.stops {op : Operator} {gap : List Char} (between : Between op y gap) (t : Tree)
    (rest : List Char) : Stops t (gap ++ rest) := by
  cases between with
  | bare single => exact (Mark.operator op).stops nofun t rest
  | spaced =>
      intro c first
      cases first
      exact stops_plain t rfl nofun

theorem Reads.binary (first : Reads a x) (op : Operator) (second : Reads b y) {gap : List Char}
    (between : Between op y gap) (left : op.level ≤ a.level) (right : op.level < b.level) :
    Reads (.binary op a b) (x ++ gap ++ y) := by
  refine ⟨?_,fun holes outer rest fits stops => ?_⟩
  · rw [List.append_assoc]; exact opens_append first.opens _
  · obtain ⟨early,u,read,same⟩ := first.whole holes outer (gap ++ (y ++ rest)) (fits.mono left)
      (between.stops a _)
    have reduced : reduce op.level early u = (holes,a) := (same op.level left).trans (fits.reduced a)
    obtain ⟨late,v,readLate,sameLate⟩ := second.whole (.left a op :: holes) outer rest
      (fun h head => by cases head; exact right) stops
    refine ⟨late,v,?_,fun level low => ?_⟩
    · rw [List.append_assoc,List.append_assoc,read,between.reads second.opens,State.step]
      simp only [reduced]
      exact readLate
    · rw [sameLate level (Nat.le_trans low (Nat.le_of_lt right))]
      exact reduce_filled low holes b

theorem Primary.text (content : String) :
    Primary (.atom (.text content.toList)) (Json.stringText content).toList := by
  refine ⟨rfl,⟨'"',by simp [Json.stringText],rfl⟩,fun holes outer rest _ => ?_⟩
  rw [readFrom_text]
  rfl

theorem Primary.empty : Primary (.atom (.text [])) ['\'','\''] := by
  refine ⟨rfl,⟨'\'',rfl,rfl⟩,fun holes outer rest _ => ?_⟩
  exact readFrom_empty

theorem Primary.list : Primary (.atom .list) (Mark.bracket.text ++ Mark.unbracket.text) := by
  refine ⟨rfl,⟨'[',rfl,rfl⟩,fun holes outer rest _ => ?_⟩
  rw [List.append_assoc]
  exact (read_mark .bracket (apart_alone (by decide) _) rfl).trans
    (read_mark .unbracket (apart_alone (by decide) _) rfl)

theorem Primary.numeral (numeral : Decimal.Numeral x) : Primary (.atom (.numeral x)) x := by
  refine ⟨rfl,?_,fun holes outer rest stops => ?_⟩
  · obtain ⟨whole,fraction,exponent,digits,-,-,rfl⟩ := numeral.parts
    cases whole with
    | nil => exact absurd rfl digits.1
    | cons c whole => exact ⟨c,rfl,by simp [starts,digits.2 c List.mem_cons_self]⟩
  · rw [readFrom_numeral numeral fun c first => by simpa [Tree.stops] using stops c first]
    rfl

theorem Primary.word (word : Word x) {a : Atom} (known : Atom.ofWord? x = some a) :
    Primary (.atom a) x := by
  refine ⟨rfl,?_,fun holes outer rest stops => ?_⟩
  · obtain ⟨c,more,rfl,start,-⟩ := word
    exact ⟨c,rfl,by simp [starts,start]⟩
  · have ends : ∀ c ∈ rest.head?, isWordPart c = false := by
      intro c first
      have stop := stops c first
      cases a <;> simp_all [Tree.stops]
    rw [readFrom_word word ends,State.step,known]
    rfl

theorem Reads.read {text : String} (reads : Reads t text.toList) : Script.read text = some t := by
  obtain ⟨left,u,read,same⟩ := reads.whole [] [] [] nofun nofun
  rw [List.append_nil] at read
  rw [Script.read,read]
  change some (close left u) = some t
  rw [close,same 0 (Nat.zero_le _)]
  rfl

end Texts

-- An expression in which every operand without parentheses binds tightly enough.
def Tree.Proper : Tree → Prop
  | .atom _ => True
  | .group t => t.Proper
  | .signed _ t => t.Proper ∧ 7 ≤ t.level
  | .binary op a b => a.Proper ∧ b.Proper ∧ op.level ≤ a.level ∧ op.level < b.level
  | .choice c a b => c.Proper ∧ a.Proper ∧ b.Proper
  | .member t _ => t.Proper ∧ t.level = 8
  | .index t place => t.Proper ∧ t.level = 8 ∧ place.Proper
  | .argument f a => f.Proper ∧ f.level = 8 ∧ a.Proper
  | .call f => f.Proper ∧ f.level = 8

section Proper

-- What waits for an operand, from the tightest to the loosest.
def Steady : List Hole → Prop
  | [] => True
  | .left t op :: holes => t.Proper ∧ op.level ≤ t.level ∧ Fits holes op.level ∧ Steady holes
  | .sign _ :: holes => Steady holes

theorem fits_sign (holes : List Hole) : Fits holes 7 := by
  intro h first
  cases h with
  | left t op =>
      change op.level < 7
      cases op <;> decide
  | sign s => exact Nat.le_refl 7

structure Reduced (level : Nat) (holes : List Hole) (t : Tree) : Prop where
  steady : Steady holes
  proper : t.Proper
  fits : Fits holes t.level
  looser : ∀ h ∈ holes.head?, h.level < level

theorem reduce_proper (level : Nat) {holes : List Hole} {t : Tree} (steady : Steady holes)
    (proper : t.Proper) (fits : Fits holes t.level) :
    Reduced level (reduce level holes t).1 (reduce level holes t).2 ∧
      (level ≤ t.level → level ≤ (reduce level holes t).2.level) := by
  induction holes generalizing t with
  | nil => exact ⟨⟨trivial,proper,nofun,nofun⟩,id⟩
  | cons h holes ih =>
      by_cases low : level ≤ h.level
      · rw [reduce_filled low]
        have admits := fits h rfl
        cases h with
        | left s op =>
            obtain ⟨properLeft,loose,fitsLeft,steady⟩ := steady
            have filled := ih (t := .binary op s t) steady ⟨properLeft,proper,loose,admits⟩ fitsLeft
            exact ⟨filled.1,fun _ => filled.2 low⟩
        | sign s =>
            have filled := ih (t := .signed s t) steady ⟨proper,admits⟩ (fits_sign holes)
            exact ⟨filled.1,fun _ => filled.2 low⟩
      · rw [reduce,if_neg low]
        refine ⟨⟨steady,proper,fits,fun other first => ?_⟩,id⟩
        cases first
        exact Nat.lt_of_not_le low

theorem close_proper {holes : List Hole} {t : Tree} (steady : Steady holes) (proper : t.Proper)
    (whole : t.level = 8) : (close holes t).Proper :=
  (reduce_proper 0 steady proper (by rw [whole]; exact (fits_sign holes).mono (Nat.le_succ 7))).1.proper

def Frame.Steady : Frame → Prop
  | .group holes => Script.Steady holes
  | .call f holes => f.Proper ∧ f.level = 8 ∧ Script.Steady holes
  | .index t holes => t.Proper ∧ t.level = 8 ∧ Script.Steady holes
  | .chosen c holes => c.Proper ∧ Script.Steady holes
  | .otherwise c a holes => c.Proper ∧ a.Proper ∧ Script.Steady holes

def State.Steady : State → Prop
  | .want holes outer => Script.Steady holes ∧ ∀ frame ∈ outer, frame.Steady
  | .array holes outer => Script.Steady holes ∧ ∀ frame ∈ outer, frame.Steady
  | .dot holes t outer =>
      Script.Steady holes ∧ t.Proper ∧ t.level = 8 ∧ ∀ frame ∈ outer, frame.Steady
  | .done holes t outer =>
      Script.Steady holes ∧ t.Proper ∧ t.level = 8 ∧ ∀ frame ∈ outer, frame.Steady

-- An operator behind an operand that is whole: what it takes as its left side binds at least as
-- tightly, and what still waits is looser.
theorem operator_steady {holes : List Hole} {t : Tree} (steady : Steady holes) (proper : t.Proper)
    (whole : t.level = 8) (op : Operator) :
    Steady (.left (reduce op.level holes t).2 op :: (reduce op.level holes t).1) := by
  have high : op.level < 7 := by cases op <;> decide
  have fits : Fits holes t.level := by rw [whole]; exact (fits_sign holes).mono (Nat.le_succ 7)
  obtain ⟨reduced,kept⟩ := reduce_proper op.level steady proper fits
  refine ⟨reduced.proper,kept (by omega),fun h first => ?_,reduced.steady⟩
  have looser := reduced.looser h first
  cases h with
  | left u other => exact looser
  | sign s =>
      have looser : 7 < op.level := looser
      omega

theorem step_steady {s next : State} {x : Lexeme} (steady : s.Steady) (ran : s.step x = some next) :
    next.Steady := by
  have closes {holes : List Hole} {t : Tree} {outer : List Frame}
      (done : (State.done holes t outer).Steady) : (close holes t).Proper :=
    close_proper done.1 done.2.1 done.2.2.1
  unfold State.step at ran
  -- In the order of the rules: where an operand is wanted, in the list without elements, behind a
  -- dot, and behind an operand.
  split at ran
  · obtain ⟨a,-,rfl⟩ := Option.map_eq_some_iff.mp ran
    exact ⟨steady.1,trivial,rfl,steady.2⟩
  · cases ran; exact ⟨steady.1,trivial,rfl,steady.2⟩
  · cases ran; exact ⟨steady.1,trivial,rfl,steady.2⟩
  · cases ran; exact ⟨trivial,List.forall_mem_cons.mpr steady⟩
  · cases ran; exact steady
  · cases ran; exact steady
  · cases ran; exact steady
  · cases ran
    obtain ⟨⟨proper,whole,waiting⟩,frames⟩ := List.forall_mem_cons.mp steady.2
    exact ⟨waiting,⟨proper,whole⟩,rfl,frames⟩
  · cases ran; exact ⟨steady.1,trivial,rfl,steady.2⟩
  · cases ran; exact ⟨steady.1,⟨steady.2.1,steady.2.2.1⟩,rfl,steady.2.2.2⟩
  · rename_i holes t outer op
    cases ran
    exact ⟨operator_steady steady.1 steady.2.1 steady.2.2.1 op,steady.2.2.2⟩
  · cases ran; exact steady
  · cases ran
    obtain ⟨waiting,proper,whole,frames⟩ := steady
    exact ⟨trivial,List.forall_mem_cons.mpr ⟨⟨proper,whole,waiting⟩,frames⟩⟩
  · cases ran
    obtain ⟨waiting,proper,whole,frames⟩ := steady
    exact ⟨trivial,List.forall_mem_cons.mpr ⟨⟨proper,whole,waiting⟩,frames⟩⟩
  · cases ran
    obtain ⟨⟨proper,whole,waiting⟩,frames⟩ := List.forall_mem_cons.mp steady.2.2.2
    exact ⟨trivial,List.forall_mem_cons.mpr ⟨⟨⟨proper,whole,closes steady⟩,rfl,waiting⟩,frames⟩⟩
  · cases ran
    obtain ⟨⟨proper,whole,waiting⟩,frames⟩ := List.forall_mem_cons.mp steady.2.2.2
    exact ⟨waiting,⟨⟨proper,whole,closes steady⟩,rfl⟩,rfl,frames⟩
  · cases ran
    obtain ⟨waiting,frames⟩ := List.forall_mem_cons.mp steady.2.2.2
    exact ⟨waiting,closes steady,rfl,frames⟩
  · cases ran
    obtain ⟨⟨proper,whole,waiting⟩,frames⟩ := List.forall_mem_cons.mp steady.2.2.2
    exact ⟨waiting,⟨proper,whole,closes steady⟩,rfl,frames⟩
  · cases ran
    obtain ⟨waiting,frames⟩ := List.forall_mem_cons.mp steady.2.2.2
    exact ⟨trivial,List.forall_mem_cons.mpr ⟨⟨closes steady,waiting⟩,frames⟩⟩
  · cases ran
    obtain ⟨⟨condition,waiting⟩,frames⟩ := List.forall_mem_cons.mp steady.2.2.2
    exact ⟨trivial,List.forall_mem_cons.mpr ⟨⟨condition,closes steady,waiting⟩,frames⟩⟩
  · cases ran
    obtain ⟨⟨condition,yes,waiting⟩,frames⟩ := List.forall_mem_cons.mp steady.2.2.2
    exact ⟨waiting,⟨condition,yes,closes steady⟩,rfl,frames⟩
  · cases ran

theorem run_steady {s next : State} {xs : List Lexeme} (steady : s.Steady)
    (ran : s.run xs = some next) : next.Steady := by
  induction xs generalizing s with
  | nil => cases ran; exact steady
  | cons x rest ih =>
      obtain ⟨middle,first,ran⟩ := Option.bind_eq_some_iff.mp ran
      exact ih (step_steady steady first) ran

theorem finish_proper {s : State} {t : Tree} (steady : s.Steady) (ran : s.finish = some t) :
    t.Proper := by
  unfold State.finish at ran
  split at ran
  · cases ran
    exact close_proper steady.1 steady.2.1 steady.2.2.1
  · cases ran

theorem readFrom_proper {s : State} {scan : Scan} {text : List Char} {t : Tree} (steady : s.Steady)
    (ran : readFrom s scan text = some t) : t.Proper := by
  induction text generalizing s scan with
  | nil =>
      obtain ⟨last,-,ran⟩ := Option.bind_eq_some_iff.mp ran
      obtain ⟨final,first,ran⟩ := Option.bind_eq_some_iff.mp ran
      exact finish_proper (run_steady steady first) ran
  | cons c rest ih =>
      obtain ⟨next,first,ran⟩ := Option.bind_eq_some_iff.mp ran
      exact ih (run_steady steady first) ran

theorem read_proper {text : String} {t : Tree} (ran : read text = some t) : t.Proper := by
  have start : (State.want [] []).Steady := ⟨trivial,nofun⟩
  exact readFrom_proper start ran

end Proper

end OlapQuery.Druid.Script
