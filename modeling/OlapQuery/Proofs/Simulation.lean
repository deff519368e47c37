import OlapQuery.Proofs.Dialogue
import OlapQuery.Proofs.NestedRows

-- Listing the queries of an expression is running it against an engine that answers with the rows
-- that are made up: one row for each query, with the keys that were made up for it. The rows below
-- a nested split stand under a name of their own, so that they hide no key from the next one.

namespace OlapQuery

namespace Json

-- The same value to the last bit, so that what is made up can be checked.
mutual
def identical : Json → Json → Bool
  | .null,.null => true
  | .bool a,.bool b => a == b
  | .int a,.int b => a == b
  | .float a,.float b => decide (a = b)
  | .str a,.str b => a == b
  | .arr a,.arr b => identicalItems a b
  | .obj a,.obj b => identicalFields a b
  | _,_ => false

def identicalItems : List Json → List Json → Bool
  | [],[] => true
  | a :: as,b :: bs => identical a b && identicalItems as bs
  | _,_ => false

def identicalFields : List (String × Json) → List (String × Json) → Bool
  | [],[] => true
  | (k,a) :: as,(l,b) :: bs => k == l && identical a b && identicalFields as bs
  | _,_ => false
end

mutual
theorem identical_exact (a b : Json) : identical a b = true ↔ a = b := by
  cases a with
  | arr as => cases b <;> simp [identical,identicalItems_exact as]
  | obj as => cases b <;> simp [identical,identicalFields_exact as]
  | _ => cases b <;> simp [identical]

theorem identicalItems_exact (as bs : List Json) : identicalItems as bs = true ↔ as = bs := by
  cases as with
  | nil => cases bs <;> simp [identicalItems]
  | cons a as => cases bs <;> simp [identicalItems,identical_exact a,identicalItems_exact as]

theorem identicalFields_exact (as bs : List (String × Json)) :
    identicalFields as bs = true ↔ as = bs := by
  match as with
  | [] => cases bs <;> simp [identicalFields]
  | (k,a) :: as =>
      cases bs <;> simp [identicalFields,identical_exact a,identicalFields_exact as,Prod.ext_iff]
end

instance : DecidableEq Json := fun a b => decidable_of_iff _ (identical_exact a b)

end Json

open Compiled Step Binding

-- No split is nested under the name of a key of its own level.
inductive NestedApart : Expr → Prop where
  | level (e : Expr)
      (apart : ∀ n ∈ e.chainSteps.filterMap nested?, n.name ∉ (splitKeys e.chainSteps).map (·.1))
      (below : ∀ n ∈ e.chainSteps.filterMap nested?, NestedApart n.expression) : NestedApart e

theorem NestedApart.lowered {written run : Expr} (apart : NestedApart written)
    (lowered : Lowered written run) : NestedApart run := by
  obtain ⟨_,own,below⟩ := apart
  refine .level run ?_ ?_
  · rw [lowered.nested,lowered.keys]; exact own
  · rw [lowered.nested]; exact below

theorem fold_keys {dataset : Dataset} {e : Expr} {folded : FoldedQuery}
    (ran : fold dataset e = .ok folded) :
    folded.splitKeys = [] ∨ folded.asks = true ∧ folded.splitKeys = splitKeys e.chainSteps := by
  rcases fold_cases ran with ⟨-,value⟩ | ⟨-,-,totals⟩ | ⟨chain,root,base,rows⟩
  · obtain ⟨_,_,-,rfl⟩ := Fold.value_parts value
    exact .inl rfl
  · obtain ⟨t,-,rfl⟩ := Fold.totals_parts totals
    exact .inl rfl
  · refine .inr ⟨?_,(fold_over ran chain base).2.2.1⟩
    obtain ⟨q,-,rfl⟩ := Fold.rows_parts rows
    cases q.split <;> rfl

-- A row that has the keys which were made up for a level.
def MadeUp (dataset : Dataset) (l : Level) (row : Row) : Prop :=
  ∀ made ∈ (simulatedRow dataset l.splitKeys).toOption,
    ∀ key ∈ l.splitKeys, row.get? key.1 = made.get? key.1
  deriving Decidable

-- An answer that comes down to one such row.
def Simulated (dataset : Dataset) (l : Level) (rows : List Row) : Prop :=
  (l.post.apply rows).length = 1 ∧ ∀ row ∈ l.post.apply rows, MadeUp dataset l row
  deriving Decidable

section MadeUp

variable {dataset : Dataset} {l : Level} {row : Row}

theorem Simulated.single {rows : List Row} (simulated : Simulated dataset l rows) :
    ∃ row, l.post.apply rows = [row] ∧ MadeUp dataset l row := by
  obtain ⟨row,single⟩ := List.length_eq_one_iff.mp simulated.1
  exact ⟨row,single,simulated.2 row (by simp [single])⟩

theorem MadeUp.insert (madeUp : MadeUp dataset l row) {name : String}
    (apart : name ∉ l.splitKeys.map (·.1)) (value : Json) :
    MadeUp dataset l (row.insert name value) := by
  intro made makes key member
  have other : key.1 ≠ name := fun same => apart (same ▸ List.mem_map_of_mem member)
  rw [Table.get_insert,if_neg other]
  exact madeUp made makes key member

theorem MadeUp.bind (madeUp : MadeUp dataset l row) {made : Row}
    (makes : simulatedRow dataset l.splitKeys = .ok made) (nested : Nested) :
    l.bind dataset row nested = l.bind dataset made nested := by
  have same : rowPredicates dataset l.splitKeys row = rowPredicates dataset l.splitKeys made :=
    mapM_each fun key member => by rw [madeUp made (toOption_ok.mpr makes) key member]
  rw [Level.bind,Level.bind,Binding.bind,Binding.bind,same]

end MadeUp

namespace Dialogue

-- Whatever is asked is answered, and as supposed.
def Answered (supposed : Level → List Row → Prop) : Dialogue α → List Answer → Prop
  | .ends _,_ => True
  | .stuck _,_ => True
  | .asks _ _ _,[] => False
  | .asks level _ next,answer :: rest =>
      match answer.collect with
      | .ok rows => supposed level rows ∧ (next rows).Answered supposed rest
      | .error _ => False

instance Answered.decidable {supposed : Level → List Row → Prop}
    [∀ level rows, Decidable (supposed level rows)] :
    (d : Dialogue α) → (answers : List Answer) → Decidable (d.Answered supposed answers)
  | .ends _,_ => isTrue trivial
  | .stuck _,_ => isTrue trivial
  | .asks _ _ _,[] => isFalse id
  | .asks level _ next,answer :: rest =>
      match complete : answer.collect with
      | .ok rows =>
          have : Decidable ((next rows).Answered supposed rest) := decidable (next rows) rest
          decidable_of_iff (supposed level rows ∧ (next rows).Answered supposed rest)
            (by rw [Answered,complete])
      | .error _ => isFalse (by simp [Answered,complete])

theorem Promises.met {supposed : Level → List Row → Prop} {d : Dialogue α}
    {ending : List NativeQuery → α → Prop}
    (promised : d.Promises supposed (fun _ => False) ending) {answers : List Answer}
    (answered : d.Answered supposed answers) :
    ∃ a, d.result answers = .ok a ∧ ending (d.issues answers) a := by
  induction d generalizing answers ending with
  | ends a => exact ⟨a,rfl,promised⟩
  | stuck error => cases promised
  | asks level query next ih =>
      cases answers with
      | nil => cases answered
      | cons answer rest =>
          rw [Answered] at answered
          rw [result,issues]
          cases complete : answer.collect with
          | error error => simp [complete] at answered
          | ok rows =>
              rw [complete] at answered
              exact ih rows (promised rows answered.1) answered.2

variable {dataset : Dataset} {l : Level} {depth : Nat}

theorem ownRows_simulated (keyed : l.query = none → l.splitKeys = []) :
    (ownRows l).Promises (Simulated dataset) (fun _ => False) fun asked rows =>
      asked = l.query.toList ∧ ∃ row, rows = [row] ∧ MadeUp dataset l row := by
  unfold ownRows
  cases query : l.query with
  | none =>
      refine ⟨rfl,[],rfl,fun made _ key member => ?_⟩
      rw [keyed query] at member
      cases member
  | some query =>
      intro rows given
      exact ⟨rfl,given.single⟩

-- What is nested in a row that was made up asks what is listed for it.
structure Foreseen (dataset : Dataset) (depth : Nat) (l : Level) (nested : Nested)
    (queries : List NativeQuery) : Prop where
  apart : nested.name ∉ l.splitKeys.map (·.1)
  asked : ∀ row, MadeUp dataset l row → ∃ bound below,
    l.bind dataset row nested = .ok bound ∧ planLevel dataset bound = .ok below ∧
      (ofLevel dataset depth below).Promises (Simulated dataset) (fun _ => False)
        fun asked _ => asked = queries

-- The loop over what is nested in a row: it is never stuck, it asks what was foreseen, and the
-- row has the keys that were made up as long as it goes on.
theorem nested_simulated {below : List (List NativeQuery)} {row : Row}
    (each : List.Forall₂ (Foreseen dataset depth l) l.nested below) (madeUp : MadeUp dataset l row) :
    (l.nested.foldlM (fun row nested => do
      let bound ← ofCompiled (l.bind dataset row nested)
      let below ← ofCompiled (planLevel dataset bound)
      let rowsBelow ← ofLevel dataset depth below
      return row.insert nested.name (.arr (rowsBelow.map .obj))) row).Promises (Simulated dataset)
        (fun _ => False) fun asked _ => asked = below.flatten := by
  refine (promises_foldlM (fun rest asked row => MadeUp dataset l row ∧ ∃ left,
    List.Forall₂ (Foreseen dataset depth l) rest left ∧ asked ++ left.flatten = below.flatten)
    ?_ [] ⟨madeUp,below,each,rfl⟩).imp ?_
  · rintro nested rest asked row ⟨madeUp,_ | ⟨queries,left⟩,foreseen,total⟩
    · cases foreseen
    · obtain ⟨first,later⟩ := List.forall₂_cons.mp foreseen
      obtain ⟨bound,level,binds,plans,promised⟩ := first.asked row madeUp
      rw [promises_bind,promises_compiled,binds]
      refine ⟨fun _ same => ?_,nofun⟩
      cases same
      rw [promises_bind,promises_compiled,plans]
      refine ⟨fun _ same => ?_,nofun⟩
      cases same
      refine promises_bind.mpr (promised.imp fun more rowsBelow listed => ?_)
      refine ⟨madeUp.insert first.apart _,left,later,?_⟩
      rw [listed,← total]
      simp
  · rintro asked last ⟨-,left,foreseen,total⟩
    cases foreseen
    simpa using total

end Dialogue

section Listed

variable {dataset : Dataset} {e : Expr} {l : Level} {depth : Nat} {queries : List NativeQuery}

theorem queriesWithin_plans (lists : queriesWithin dataset depth e = .ok queries) :
    ∃ l, planLevel dataset e = .ok l := by
  cases depth with
  | zero =>
      obtain ⟨l,plans,-⟩ := bind_ok.mp lists
      exact ⟨l,plans⟩
  | succ depth =>
      obtain ⟨l,plans,-⟩ := bind_ok.mp lists
      exact ⟨l,plans⟩

-- The queries below a level are those of its nested splits, each bound to the row made up for it,
-- or to any other with its keys.
theorem queriesWithin_below (plans : planLevel dataset e = .ok l)
    (lists : queriesWithin dataset (depth + 1) e = .ok queries) :
    ∃ below, queries = l.query.toList ++ below.flatten ∧
      List.Forall₂ (fun nested qs => ∀ row, MadeUp dataset l row → ∃ bound,
        l.bind dataset row nested = .ok bound ∧ queriesWithin dataset depth bound = .ok qs)
        l.nested below := by
  rw [queriesWithin,plans] at lists
  change (if l.nested.isEmpty then _ else _) = _ at lists
  split at lists
  · rename_i none
    cases pure_ok.mp lists
    exact ⟨[],by simp,by rw [List.isEmpty_iff.mp none]; exact .nil⟩
  · obtain ⟨made,makes,rest⟩ := bind_ok.mp lists
    obtain ⟨below,each,rest⟩ := bind_ok.mp rest
    cases pure_ok.mp rest
    refine ⟨below,rfl,(mapM_ok each).imp fun nested qs listed row madeUp => ?_⟩
    rw [madeUp.bind makes]
    exact bind_ok.mp listed

theorem planLevel_keys (plans : planLevel dataset e = .ok l) :
    l.splitKeys = [] ∨ l.query.isSome = true ∧ l.splitKeys = splitKeys e.chainSteps := by
  obtain ⟨folded,folds,-,keys,asks⟩ := planLevel_shape plans
  rw [keys,asks]
  exact fold_keys folds

theorem nested_apart (apart : NestedApart e) (plans : planLevel dataset e = .ok l) {nested : Nested}
    (member : nested ∈ l.nested) :
    nested.name ∉ l.splitKeys.map (·.1) ∧
      ∀ row bound, l.bind dataset row nested = .ok bound → NestedApart bound := by
  obtain ⟨folded,folds,same⟩ := planLevel_parts plans
  obtain ⟨n,listed,template⟩ := Expr.related_source (fold_templates folds) (same ▸ member)
  obtain ⟨_,own,below⟩ := apart
  refine ⟨?_,fun row bound binds => (below n listed).lowered (template.lowered.bound binds)⟩
  rw [template.name]
  rcases planLevel_keys plans with none | ⟨-,keys⟩
  · simp [none]
  · rw [keys]; exact own n listed

theorem ofLevel_simulated (apart : NestedApart e) (plans : planLevel dataset e = .ok l)
    (lists : queriesWithin dataset depth e = .ok queries) :
    (Dialogue.ofLevel dataset depth l).Promises (Simulated dataset) (fun _ => False)
      fun asked _ => asked = queries := by
  have unasked {e l} (plans : planLevel dataset e = .ok l) (none : l.query = none) :
      l.splitKeys = [] :=
    (planLevel_keys plans).resolve_right (by simp [none])
  induction depth generalizing e l queries with
  | zero =>
      obtain ⟨_,same,rest⟩ := bind_ok.mp lists
      cases plans.symm.trans same
      cases pure_ok.mp rest
      exact (Dialogue.ownRows_simulated (unasked plans)).imp fun asked rows first => first.1
  | succ depth ih =>
      obtain ⟨below,rfl,each⟩ := queriesWithin_below plans lists
      have foreseen : List.Forall₂ (Dialogue.Foreseen dataset depth l) l.nested below := by
        refine Expr.forall_related each fun nested member qs listed => ?_
        obtain ⟨free,inner⟩ := nested_apart apart plans member
        refine ⟨free,fun row madeUp => ?_⟩
        obtain ⟨bound,binds,listed⟩ := listed row madeUp
        obtain ⟨lower,plansLower⟩ := queriesWithin_plans listed
        exact ⟨bound,lower,binds,plansLower,ih (inner row bound binds) plansLower listed⟩
      rw [Dialogue.ofLevel,Dialogue.promises_bind]
      refine (Dialogue.ownRows_simulated (unasked plans)).imp fun early rows first => ?_
      obtain ⟨rfl,row,rfl,madeUp⟩ := first
      rw [List.mapM_cons,List.mapM_nil,Dialogue.promises_bind]
      refine (Dialogue.nested_simulated foreseen madeUp).imp fun late last asked => ?_
      change _ ++ (late ++ []) = _
      rw [asked,List.append_nil]

end Listed

-- The dialogue about an expression, down to what is nested deepest in it.
def Dialogue.whole (dataset : Dataset) (e : Expr) : Dialogue (List Row) := do
  ofLevel dataset e.nestingDepth (← ofCompiled (planLevel dataset e))

-- An engine that answers each query with the row made up for it is asked the queries that are
-- listed, one after the other, and nothing else.
theorem compile_simulates {dataset : Dataset} {e : Expr} {queries : List NativeQuery}
    (compiled : compile dataset e = .ok queries) (apart : NestedApart e) {answers : List Answer}
    (answered : (Dialogue.whole dataset e).Answered (Simulated dataset) answers) :
    ∃ rows, execute dataset e answers false = .ok { issued := queries,result := .ok rows } := by
  obtain ⟨root,plans⟩ := queriesWithin_plans compiled
  rw [Dialogue.whole,plans] at answered
  obtain ⟨rows,result,issued⟩ := (ofLevel_simulated apart plans compiled).met answered
  refine ⟨rows,?_⟩
  rw [execute,plans,← issued,← result,← Run.outcome_dialogue]
  rfl

namespace Visits

def overview : Expr :=
  .apply (.apply .ply "local" (.filter (.ref "main") (is "country" "no"))) "Cities"
    (.apply byCity "Pages" (.split (.ref "part") [("Page",.ref "page")] "own"))

def guesses : List Answer :=
  [{ rows := [[("City",.str "some_city")]] },{ rows := [[("User",.str "some_user")]] },
    { rows := [[("Page",.str "some_page")]] }]

theorem overview_apart : NestedApart overview := by
  refine .level _ (by decide) fun n member => ?_
  cases List.mem_singleton.mp member
  refine .level _ (by decide) fun n member => ?_
  rcases List.mem_pair.mp member with rfl | rfl
  · exact .level _ nofun nofun
  · exact .level _ nofun nofun

theorem overview_simulated :
    ∃ queries rows, compile visits overview = .ok queries ∧ queries.length = 3 ∧
      execute visits overview guesses false = .ok { issued := queries,result := .ok rows } := by
  have compiles : (compile visits overview).toOption.isSome = true := by decide +kernel
  obtain ⟨queries,found⟩ := Option.isSome_iff_exists.mp compiles
  have compiled := toOption_ok.mp found
  have answered : (Dialogue.whole visits overview).Answered (Simulated visits) guesses := by
    decide +kernel
  obtain ⟨rows,executed⟩ :=
    @compile_simulates visits overview queries compiled overview_apart guesses answered
  exact ⟨queries,rows,compiled,compile_count compiled,executed⟩

end Visits

end OlapQuery
