import OlapQuery.Proofs.Chain
import OlapQuery.Proofs.Statements
import OlapQuery.Proofs.WholeNumbers

-- How many rows a plan lets through, next to the limits that were asked for. Folding keeps the
-- smallest of them as a word of 64 bits. Druid is sent it as it is, and so is the client left
-- with it, but a statement is printed with the signed number of the same bits.

namespace OlapQuery

open Compiled

namespace Sql

def wholeNumber? (cs : List Char) : Option Nat :=
  if cs.isEmpty || !cs.all Char.isDigit then none else some (Decimal.natOfDigits cs)

def signedNumber? : List Char → Option Int
  | '-' :: digits => (wholeNumber? digits).map (fun n => -(n : Int))
  | digits => (wholeNumber? digits).map (fun n => (n : Int))

def lastLine (text : String) : List Char :=
  (text.toList.reverse.takeWhile (· != '\n')).reverse

-- The number that a statement ends with, if that is a limit.
def printedLimit? (text : String) : Option Int :=
  ("LIMIT ".toList.isPrefixOf? (lastLine text)).bind signedNumber?

theorem wholeNumber_nat (n : Nat) : wholeNumber? (toString n).toList = some n := by
  obtain ⟨some,digits⟩ := Decimal.digits_nat n
  have plain : ¬((toString n).toList.isEmpty || !(toString n).toList.all Char.isDigit) = true := by
    rw [List.isEmpty_eq_false_iff.mpr some,List.all_eq_true.mpr digits]
    decide
  rw [wholeNumber?,if_neg plain,Decimal.natOfDigits_nat]

theorem signedNumber_int (n : Int) : signedNumber? (toString n).toList = some n := by
  cases n with
  | ofNat n =>
      change signedNumber? (toString n).toList = _
      have digits := Decimal.digits_nat n
      have read := wholeNumber_nat n
      cases shape : (toString n).toList with
      | nil => exact absurd shape digits.1
      | cons c cs =>
          rw [shape] at digits read
          have unsigned : c ≠ '-' := by
            rintro rfl
            exact absurd (digits.2 '-' List.mem_cons_self) (by decide)
          unfold signedNumber?
          split
          · rename_i same
            exact absurd (List.cons.inj same).1 unsigned
          · rw [read]
            rfl
  | negSucc n =>
      have shape : (toString (Int.negSucc n)).toList = '-' :: (toString (n + 1)).toList := by
        change ("-" ++ (n + 1).repr).toList = '-' :: (n + 1).repr.toList
        simp
      rw [shape]
      simp only [signedNumber?,wholeNumber_nat]
      rfl

theorem lastLine_line (before line : String) (single : '\n' ∉ line.toList) :
    lastLine (before ++ "\n" ++ line) = line.toList := by
  have all : ∀ c ∈ line.toList.reverse, (c != '\n') = true := by
    intro c listed
    simp only [bne_iff_ne]
    rintro rfl
    exact single (List.mem_reverse.mp listed)
  have newline : "\n".toList = ['\n'] := rfl
  simp only [lastLine,String.toList_append,newline,List.reverse_append,List.reverse_singleton]
  rw [List.takeWhile_append_of_pos all,List.singleton_append,List.takeWhile_cons_of_neg (by simp),
    List.append_nil,List.reverse_reverse]

theorem lastLine_clauses (head : String) (before after : List (Option String)) {line : String}
    (single : '\n' ∉ line.toList) (silent : ∀ clause ∈ after, clause = none) :
    lastLine (String.intercalate "\n" ((some head :: before ++ some line :: after).filterMap id))
      = line.toList := by
  have split : (some head :: before ++ some line :: after).filterMap id
      = (some head :: before).filterMap id ++ [line] := by
    simpa using silent
  rw [split,String.intercalate_append_of_ne_nil (by simp) (List.cons_ne_nil _ _),
    String.intercalate_singleton]
  exact lastLine_line _ line single

theorem signedWord_eq (n : UInt64) :
    signedWord n = if n.toNat < 2 ^ 63 then (n.toNat : Int) else (n.toNat : Int) - 2 ^ 64 := by
  have word := n.toNat_lt
  change n.toBitVec.toInt = _
  rw [BitVec.toInt_eq_toNat_cond]
  change (if 2 * n.toNat < 2 ^ 64 then (n.toNat : Int) else (n.toNat : Int) - (2 ^ 64 : Nat)) = _
  split <;> split <;> omega

theorem intercalate_single {separator : String} (plain : '\n' ∉ separator.toList)
    {items : List String} (each : ∀ item ∈ items, '\n' ∉ item.toList) :
    '\n' ∉ (String.intercalate separator items).toList := by
  induction items with
  | nil => simp
  | cons first rest ih =>
      obtain ⟨front,later⟩ := List.forall_mem_cons.mp each
      by_cases none : rest = []
      · rw [none,String.intercalate_singleton]
        exact front
      · rw [String.intercalate_cons_of_ne_nil none,String.toList_append,String.toList_append]
        simp only [List.mem_append,not_or]
        exact ⟨⟨front,plain⟩,ih later⟩

theorem int_single (n : Int) : '\n' ∉ (toString n).toList := by
  intro listed
  rcases (Decimal.int_signed n).chars listed with digit | other
  · exact absurd digit (by decide)
  · exact absurd other (by decide)

namespace Select

theorem limited_text (d : Dialect) {s : Select} {n : UInt64} (limited : s.limit = some n)
    (unskipped : s.offset = none) : printedLimit? (s.text d) = some (signedWord n) := by
  have keyword : "LIMIT ".toList = ['L','I','M','I','T',' '] := rfl
  have tail : limitOffset s.limit s.offset = "LIMIT " ++ toString (signedWord n) := by
    rw [limited,unskipped]
    rfl
  have written : ("LIMIT " ++ toString (signedWord n)).isEmpty = false := by
    rw [← Bool.not_eq_true,String.isEmpty_iff]
    simp
  have single : '\n' ∉ ("LIMIT " ++ toString (signedWord n)).toList := by
    rw [String.toList_append]
    intro listed
    rcases List.mem_append.mp listed with early | late
    · exact absurd early (by decide)
    · exact int_single _ late
  have last := lastLine_clauses (if s.columns.isEmpty then "SELECT *"
      else "SELECT\n  " ++ String.intercalate ",\n  " (s.columns.map (columnText d)))
    [s.source.map (fun t => "FROM " ++ tableText d t),s.condition.map (fun c => "WHERE " ++ c),
      clause "GROUP BY" s.groupBy,s.having.map (fun c => "HAVING " ++ c),
      clause "ORDER BY" (s.orderBy.map (orderText d))] [] single (by simp)
  have read : lastLine (s.text d) = "LIMIT ".toList ++ (toString (signedWord n)).toList := by
    rw [← String.toList_append,← last]
    simp only [text,tail,written,Bool.false_eq_true,↓reduceIte,List.cons_append,List.nil_append]
  rw [printedLimit?,read,keyword]
  exact signedNumber_int (signedWord n)

-- The positions that rows are grouped by are one line, and nothing follows them in a statement
-- that is neither filtered nor ordered nor limited.
theorem unlimited_text (d : Dialect) {s : Select} (unlimited : s.limit = none)
    (unskipped : s.offset = none) (unfiltered : s.having = none) (unordered : s.orderBy = [])
    {n : Nat} (grouped : 0 < n)
    (groups : s.groupBy = (List.range n).map (fun i => toString (i + 1))) :
    printedLimit? (s.text d) = none := by
  have tail : (limitOffset s.limit s.offset).isEmpty = true := by
    rw [unlimited,unskipped]
    rfl
  have positions : clause "GROUP BY" s.groupBy
      = some ("GROUP BY " ++ String.intercalate ", " s.groupBy) := by
    rw [clause,if_neg]
    · rfl
    · simpa [groups] using grouped.ne'
  have single : '\n' ∉ ("GROUP BY " ++ String.intercalate ", " s.groupBy).toList := by
    have each : ∀ position ∈ s.groupBy, '\n' ∉ position.toList := by
      rw [groups]
      intro position listed
      obtain ⟨i,-,rfl⟩ := List.mem_map.mp listed
      exact int_single ((i + 1 : Nat) : Int)
    rw [String.toList_append,List.mem_append,not_or]
    exact ⟨by decide,intercalate_single (by decide) each⟩
  have last := lastLine_clauses (if s.columns.isEmpty then "SELECT *"
      else "SELECT\n  " ++ String.intercalate ",\n  " (s.columns.map (columnText d)))
    [s.source.map (fun t => "FROM " ++ tableText d t),s.condition.map (fun c => "WHERE " ++ c)]
    [none,none,none] single (by simp)
  have read : lastLine (s.text d)
      = "GROUP BY ".toList ++ (String.intercalate ", " s.groupBy).toList := by
    rw [← String.toList_append,← last]
    simp only [text,tail,positions,unfiltered,unordered,↓reduceIte,List.cons_append,
      List.nil_append,Option.map_none]
    rfl
  rw [printedLimit?,read]
  rfl

end Select

namespace Planner

theorem plan_limited {p : Planner} {plan : Plan} {n : UInt64} (limited : p.folded.limit = some n)
    (chain : p.folded.mode = .raw ∨ p.folded.mode = .split) (ran : p.plan = .ok plan) :
    (printedLimit? plan.sql = some (signedWord n) ∧ plan.clientLimit = none) ∨
      (printedLimit? plan.sql = none ∧ plan.clientLimit = some n) := by
  unfold Planner.plan at ran
  split at ran
  · obtain ⟨base,found,ran⟩ := bind_ok.mp ran
    cases pure_ok.mp ran
    obtain ⟨condition,rfl⟩ := base_only found
    exact .inl ⟨Select.limited_text _ limited rfl,rfl⟩
  · cases keyed : p.folded.split with
    | none =>
        simp only [split,keyed] at ran
        exact absurd ran unsupported_ok
    | some s =>
        unfold split at ran
        rw [keyed] at ran
        obtain ⟨keyColumns,-,ran⟩ := bind_ok.mp ran
        obtain ⟨applyColumns,-,ran⟩ := bind_ok.mp ran
        obtain ⟨base,found,ran⟩ := bind_ok.mp ran
        obtain ⟨condition,rfl⟩ := base_only found
        dsimp only at ran
        split at ran
        · obtain ⟨having,-,ran⟩ := bind_ok.mp ran
          cases pure_ok.mp ran
          exact .inl ⟨Select.limited_text _ limited rfl,rfl⟩
        · rename_i left
          unfold clientSide at ran
          split at ran
          · obtain ⟨_,refused,-⟩ := bind_ok.mp ran
            exact absurd refused throw_ok
          · obtain ⟨merges,-,ran⟩ := bind_ok.mp ran
            cases pure_ok.mp ran
            have grouped : 0 < s.keys.length := by
              cases keys : s.keys with
              | nil => exact absurd (by rw [keys]; rfl) left
              | cons => exact Nat.succ_pos _
            exact .inr ⟨Select.unlimited_text _ rfl rfl rfl rfl grouped rfl,limited⟩
  · rename_i raw split
    rcases chain with is | is <;> contradiction

end Planner

end Sql

-- How many rows an engine may return at most, as it reads the query.
def NativeQuery.rowBound? : NativeQuery → Option Int
  | .druid (.topN q) => some q.threshold.toNat
  | .druid (.groupBy q) => some q.limitSpec.limit.toNat
  | .druid (.select q) => some q.threshold.toNat
  | .druid _ => none
  | .sql text => Sql.printedLimit? text

-- All bounds on the rows of a level, those of the engine before those of the client.
def Level.rowBounds (level : Level) : List Int :=
  (level.query.bind NativeQuery.rowBound?).toList
    ++ (level.post.limit.map (fun n => (n.toNat : Int))).toList

-- Whether the limit stands in the text of a statement.
def Level.printsLimit (level : Level) : Bool :=
  match level.query with
  | some (.sql _) => level.post.limit.isNone
  | _ => false

namespace Druid.Planner

theorem plan_limited {p : Planner} {plan : Plan} {n : UInt64} (limited : p.folded.limit = some n)
    (chain : p.folded.mode = .raw ∨ p.folded.mode = .split) (ran : p.plan = .ok plan) :
    ((NativeQuery.druid plan.query).rowBound? = some (n.toNat : Int) ∧ plan.clientLimit = none) ∨
      ((NativeQuery.druid plan.query).rowBound? = none ∧ plan.clientLimit = some n) := by
  cases plan_planned ran with
  | selected _ query threshold _ unlimited =>
      exact .inl ⟨by simp [query,NativeQuery.rowBound?,threshold,limited],unlimited⟩
  | bucketed _ query _ limit =>
      exact .inr ⟨by simp [query,NativeQuery.rowBound?],limit.trans limited⟩
  | ranked _ query threshold _ unlimited =>
      exact .inl ⟨by simp [query,NativeQuery.rowBound?,threshold,limited],unlimited⟩
  | grouped _ query limit _ unlimited =>
      exact .inl ⟨by simp [query,NativeQuery.rowBound?,limit,limited],unlimited⟩
  | bounded rows split => rcases chain with is | is <;> contradiction
  | totalled rows split => rcases chain with is | is <;> contradiction

end Druid.Planner

def Step.limit? : Step → Option UInt64
  | .limit count => some count
  | _ => none

def Expr.limits (e : Expr) : List Nat :=
  (e.chainSteps.filterMap Step.limit?).map UInt64.toNat

namespace Fold

theorem least_append (ns : List Nat) (n : Nat) :
    (ns ++ [n]).min? = some (ns.min?.elim n (min · n)) := by
  cases ns with
  | nil => rfl
  | cons first rest =>
      simp only [List.cons_append,List.min?_cons',List.foldl_append]
      rfl

-- The limit kept so far, next to the steps taken.
def Least (taken : List Step) (limit : Option UInt64) : Prop :=
  limit.map UInt64.toNat = ((taken.filterMap Step.limit?).map UInt64.toNat).min?

theorem least_step {root : String} {taken : List Step} {q next : Rows} {step : Step}
    (before : Least taken q.limit) (ran : RowsTaken root q step next) :
    Least (taken ++ [step]) next.limit := by
  have other (silent : step.limit? = none) : Least (taken ++ [step]) q.limit := by
    simpa [Least,silent] using before
  cases ran with
  | @limited count =>
      unfold Least at before ⊢
      rw [List.filterMap_append,List.map_append]
      change _ = (_ ++ [count.toNat]).min?
      rw [least_append,← before]
      cases q.limit with
      | none => rfl
      | some other => exact congrArg some (smallerLimit_toNat other count)
  | filtered => exact other rfl
  | having => exact other rfl
  | split => exact other rfl
  | nested => exact other rfl
  | applied => exact other rfl
  | sorted => exact other rfl

theorem totals_unlimited {scope : Scope} {steps : List Step} {t : Totals}
    (ran : steps.foldlM totalsStep { scope } = .ok t) : steps.filterMap Step.limit? = [] := by
  refine Compiled.run_keeps (fun taken _ => taken.filterMap Step.limit? = []) ?_ rfl ran
  intro taken t step next before ran
  cases step with
  | apply name e => simpa [Step.limit?] using before
  | _ => exact absurd ran unsupported_ok

end Fold

theorem Expr.limits_single {e : Expr} (single : e.isDatasetOp = false) : e.limits = [] := by
  have last : e.lastStep? = none := by
    unfold isDatasetOp at single
    split at single
    · cases single
    · simpa using single
  rw [limits,(isBase_of_last last).steps]
  rfl

theorem folded_limit {dataset : Dataset} {e : Expr} {folded : FoldedQuery} {least : Nat}
    (ran : fold dataset e = .ok folded) (smallest : e.limits.min? = some least) :
    (folded.mode = .raw ∨ folded.mode = .split) ∧
      ∃ n, folded.limit = some n ∧ n.toNat = least := by
  rcases fold_cases ran with ⟨single,value⟩ | ⟨chained,base,totals⟩ | ⟨chained,root,base,rows⟩
  · rw [Expr.limits_single single] at smallest
    cases smallest
  · obtain ⟨t,run,rfl⟩ := Fold.totals_parts totals
    rw [Expr.limits,Fold.totals_unlimited run] at smallest
    cases smallest
  · obtain ⟨q,run,rfl⟩ := Fold.rows_parts rows
    have kept : Fold.Least e.chainSteps q.limit :=
      Compiled.run_keeps (fun taken (q : Fold.Rows) => Fold.Least taken q.limit)
        (fun _ _ _ _ before step => Fold.least_step before (Fold.rowsStep_taken step))
        (by exact rfl) run
    obtain ⟨n,limit,is⟩ := Option.map_eq_some_iff.mp (kept.trans smallest)
    refine ⟨?_,n,limit,is⟩
    dsimp only
    split
    · exact .inr rfl
    · exact .inl rfl

theorem planQuery_limited {dataset : Dataset} {folded : FoldedQuery} {post post' : PostProcess}
    {query : NativeQuery} {n : UInt64} (limited : folded.limit = some n)
    (chain : folded.mode = .raw ∨ folded.mode = .split)
    (planned : planQuery dataset folded post = .ok (query,post')) (level : Level)
    (asked : level.query = some query) (left : level.post = post') :
    (level.printsLimit = false ∧ level.rowBounds = [(n.toNat : Int)]) ∨
      (level.printsLimit = true ∧ level.rowBounds = [Sql.signedWord n]) := by
  simp only [Level.printsLimit,Level.rowBounds,asked,left]
  unfold planQuery at planned
  split at planned
  · obtain ⟨plan,ran,planned⟩ := bind_ok.mp planned
    cases pure_ok.mp planned
    obtain ⟨p,made,chosen⟩ := bind_ok.mp ran
    obtain ⟨rfl,rfl,-⟩ := Druid.Planner.make_parts made
    rcases Druid.Planner.plan_limited limited chain chosen with ⟨bound,rest⟩ | ⟨bound,rest⟩
    · exact .inl ⟨rfl,by simp [bound,rest]⟩
    · exact .inl ⟨rfl,by simp [bound,rest]⟩
  · obtain ⟨plan,ran,planned⟩ := bind_ok.mp planned
    cases pure_ok.mp planned
    unfold Sql.plan at ran
    split at ran
    · cases ran
    · rcases Sql.Planner.plan_limited limited chain ran with ⟨bound,rest⟩ | ⟨bound,rest⟩
      · exact .inr (by simp [NativeQuery.rowBound?,bound,rest])
      · exact .inl (by simp [NativeQuery.rowBound?,bound,rest])

-- A level has one bound on its rows. It is the smallest of the limits, unless it is printed and
-- its highest bit is set: the text then states a number below zero.
theorem limits_planned_exact {dataset : Dataset} {e : Expr} {level : Level} {least : Nat}
    (planned : planLevel dataset e = .ok level) (smallest : e.limits.min? = some least) :
    (level.rowBounds = [(least : Int)] ↔ (level.printsLimit = true → least < 2 ^ 63)) ∧
      (level.printsLimit = true → 2 ^ 63 ≤ least →
        level.rowBounds = [(least : Int) - 2 ^ 64]) := by
  obtain ⟨folded,ran,planned⟩ := bind_ok.mp planned
  obtain ⟨chain,n,limited,rfl⟩ := folded_limit ran smallest
  have asks : folded.asks = true := by
    rcases chain with is | is <;> simp [FoldedQuery.asks,is]
  dsimp only at planned
  rw [if_pos asks] at planned
  obtain ⟨⟨query,post⟩,chosen,planned⟩ := bind_ok.mp planned
  cases pure_ok.mp planned
  rcases planQuery_limited limited chain chosen ⟨_,_,_,_⟩ rfl rfl with
    ⟨unprinted,bounds⟩ | ⟨printed,bounds⟩
  · rw [bounds,unprinted]
    simp
  · rw [bounds,printed,Sql.signedWord_eq]
    split <;> simp <;> omega

namespace FirstVisits

def visits : Dataset :=
  { engine := .postgres,source := "visits",attributes := [{ name := "city",type := .string }] }

def firstOf (limits : List UInt64) : Expr :=
  limits.foldl (fun e n => .limit e n) (.ref "visits")

theorem small_limit_printed : ∃ level, planLevel visits (firstOf [10,5]) = .ok level ∧
    (firstOf [10,5]).limits.min? = some 5 ∧ level.rowBounds = [5] := by
  obtain ⟨exactly,-⟩ := @limits_planned_exact visits (firstOf [10,5]) _ 5 rfl (by decide)
  exact ⟨_,rfl,by decide,exactly.mpr fun _ => by decide⟩

-- The largest word stands in the text as -1.
theorem largest_limit_lost : ∃ level,
    planLevel visits (firstOf [18446744073709551615]) = .ok level ∧
      (firstOf [18446744073709551615]).limits.min? = some 18446744073709551615 ∧
      level.rowBounds = [-1] := by
  refine ⟨_,rfl,by decide,?_⟩
  rw [Level.rowBounds]
  change ((NativeQuery.sql (Sql.Select.text _ _)).rowBound?).toList ++ [] = _
  rw [NativeQuery.rowBound?,Sql.Select.limited_text _ rfl rfl]
  rfl

end FirstVisits

end OlapQuery
