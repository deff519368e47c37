import OlapQuery.Execution
import OlapQuery.Proofs.Definitions
import OlapQuery.Proofs.Tables

-- The rows that a run returns: the rows of the uppermost level, with the rows of each nested
-- split put under its name. Where several nested splits have one name the last of them is seen,
-- and all other columns are as the level itself has them.

namespace OlapQuery

theorem toOption_ok {ε α : Type} {r : Except ε α} {a : α} :
    r.toOption = some a ↔ r = .ok a := by
  cases r <;> simp [Except.toOption]

def Expr.Outcomes.run : Outcomes Run Session where
  gives x s a t := ExceptT.run x s = (.ok a,t)
  of_pure ran := by cases ran; exact ⟨rfl,rfl⟩
  of_bind {α β x g b s t} ran := by
    rw [ExceptT.run_bind] at ran
    obtain ⟨result,u,first,ran⟩ := (Expr.Outcomes.state Session).of_bind ran
    cases result with
    | ok a => exact ⟨a,u,first,ran⟩
    | error e => cases ran

open OlapQuery.Expr (Outcomes)

namespace Run

theorem ofCompiled_gives {result : Compiled α} {s t : Session} {a : α}
    (ran : Outcomes.run.gives (ofCompiled result) s a t) : result = .ok a := by
  cases result with
  | error e => cases ran
  | ok b => cases ran; rfl

-- What is nested in one row, in order: each nested split is bound to the row as it is by then,
-- planned and run, and its rows take their place under its name.
inductive Filled (dataset : Dataset) (depth : Nat) (l : Level) : List Nested → Row → Row → Prop where
  | none : Filled dataset depth l [] row row
  | next (binds : l.bind dataset row n = .ok bound) (plans : planLevel dataset bound = .ok below)
      (runs : Outcomes.run.gives (level dataset depth below) s rows t)
      (rest : Filled dataset depth l others (row.insert n.name (.arr (rows.map .obj))) last) :
      Filled dataset depth l (n :: others) row last

-- One level below, as it is run for a nested split in a row.
structure RanFor (dataset : Dataset) (l : Level) (n : Nested) (rows : List Row) : Prop where
  ran : ∃ row bound below depth s t, l.bind dataset row n = .ok bound ∧
    planLevel dataset bound = .ok below ∧ Outcomes.run.gives (level dataset depth below) s rows t

theorem filled_run {dataset : Dataset} {depth : Nat} {l : Level} {nested : List Nested}
    {row last : Row} {s t : Session}
    (ran : Outcomes.run.gives (nested.foldlM (fun row nested => do
      let bound ← ofCompiled (l.bind dataset row nested)
      let below ← ofCompiled (planLevel dataset bound)
      let rowsBelow ← level dataset depth below
      return row.insert nested.name (.arr (rowsBelow.map .obj))) row) s last t) :
    Filled dataset depth l nested row last := by
  induction nested generalizing row s with
  | nil =>
      obtain ⟨rfl,-⟩ := Outcomes.run.of_pure ran
      exact .none
  | cons n others ih =>
      rw [List.foldlM_cons] at ran
      obtain ⟨next,u,first,rest⟩ := Outcomes.run.of_bind ran
      obtain ⟨bound,_,binds,first⟩ := Outcomes.run.of_bind first
      obtain ⟨below,_,plans,first⟩ := Outcomes.run.of_bind first
      obtain ⟨rows,_,runs,first⟩ := Outcomes.run.of_bind first
      obtain ⟨rfl,-⟩ := Outcomes.run.of_pure first
      exact .next (ofCompiled_gives binds) (ofCompiled_gives plans) runs (ih rest)

theorem level_rows {dataset : Dataset} {depth : Nat} {l : Level} {rows : List Row} {s t : Session}
    (ran : Outcomes.run.gives (level dataset (depth + 1) l) s rows t) :
    ∃ own u, Outcomes.run.gives (ownRows l) s own u ∧
      List.Forall₂ (Filled dataset depth l l.nested) own rows := by
  obtain ⟨own,u,first,ran⟩ := Outcomes.run.of_bind ran
  refine ⟨own,u,first,?_⟩
  exact (Expr.mapM_related .run (fun _ _ => True) (fun _ => trivial) (fun _ _ => trivial)
    (fun _ => Filled dataset depth l l.nested) (fun _ filled => filled)
    (fun _ _ => fun ran => ⟨trivial,filled_run ran⟩) ran).2

theorem Filled.kept {dataset : Dataset} {depth : Nat} {l : Level} {nested : List Nested}
    {row last : Row} (filled : Filled dataset depth l nested row last) {name : String}
    (other : ∀ n ∈ nested, n.name ≠ name) : last.get? name = row.get? name := by
  induction filled with
  | none => rfl
  | @next row n bound below s rows t others last binds plans runs rest ih =>
      rw [List.forall_mem_cons] at other
      rw [ih other.2,Table.get_insert,if_neg (Ne.symm other.1)]

theorem Filled.seen {dataset : Dataset} {depth : Nat} {l : Level} {before after : List Nested}
    {n : Nested} {row last : Row} (filled : Filled dataset depth l (before ++ n :: after) row last)
    (latest : ∀ m ∈ after, m.name ≠ n.name) :
    ∃ rows, RanFor dataset l n rows ∧ last.get? n.name = some (.arr (rows.map .obj)) := by
  induction before generalizing row with
  | nil =>
      cases filled with
      | @next _ _ bound below s rows t _ _ binds plans runs rest =>
          refine ⟨rows,⟨row,bound,below,depth,s,t,binds,plans,runs⟩,?_⟩
          rw [rest.kept latest,Table.get_insert,if_pos rfl]
  | cons m before ih =>
      cases filled with
      | next binds plans runs rest => exact ih rest

end Run

theorem Expr.nestingDepth_flat {e : Expr} (shallow : e.nestingDepth = 0) :
    e.chainSteps.filterMap Step.nested? = [] := by
  induction e using chain_induction with
  | base e isBase => simp [isBase.steps]
  | step s e ih =>
      rw [chainSteps_after,List.filterMap_append]
      cases s with
      | apply name x =>
          simp only [Step.after,nestingDepth,Nat.max_eq_zero_iff] at shallow
          cases inner : x.hasSplit with
          | true => simp [inner] at shallow
          | false => simp [ih shallow.1,Step.nested?,inner]
      | _ => simpa [Step.nested?] using ih (by simpa [Step.after,nestingDepth] using shallow)

theorem planLevel_parts {dataset : Dataset} {e : Expr} {level : Level}
    (ran : planLevel dataset e = .ok level) :
    ∃ folded, fold dataset e = .ok folded ∧ level.nested = folded.nested := by
  obtain ⟨folded,folds,rest⟩ := Compiled.bind_ok.mp ran
  refine ⟨folded,folds,?_⟩
  dsimp only at rest
  split at rest
  · obtain ⟨_,_,rest⟩ := Compiled.bind_ok.mp rest
    cases Compiled.pure_ok.mp rest; rfl
  · cases Compiled.pure_ok.mp rest; rfl

theorem execute_rows {dataset : Dataset} {e : Expr} {answers : List Answer} {cancelled : Bool}
    {outcome : Outcome} {rows : List Row} (ran : execute dataset e answers cancelled = .ok outcome)
    (complete : outcome.result = .ok rows) :
    ∃ level own depth u, planLevel dataset e = .ok level ∧
      Outcomes.run.gives (Run.ownRows level) { answers } own u ∧
      List.Forall₂ (Run.Filled dataset depth level level.nested) own rows := by
  obtain ⟨level,plans,rest⟩ := Compiled.bind_ok.mp ran
  split at rest
  · cases Compiled.pure_ok.mp rest; cases complete
  · cases Compiled.pure_ok.mp rest
    have ran : Outcomes.run.gives (Run.level dataset e.nestingDepth level) { answers } rows
        (ExceptT.run (Run.level dataset e.nestingDepth level) { answers }).2 :=
      Prod.ext complete rfl
    cases deep : e.nestingDepth with
    | succ depth =>
        rw [deep] at ran
        obtain ⟨own,u,first,each⟩ := Run.level_rows ran
        exact ⟨level,own,depth,u,plans,first,each⟩
    | zero =>
        have flat : level.nested = [] := by
          obtain ⟨folded,folds,same⟩ := planLevel_parts plans
          have each := Fold.fold_nested folds
          rw [Expr.nestingDepth_flat deep,List.forall₂_nil_left_iff] at each
          rw [same,each]
        rw [deep] at ran
        refine ⟨level,rows,0,_,plans,ran,?_⟩
        rw [flat]
        exact List.forall₂_same.mpr fun _ _ => .none

end OlapQuery
