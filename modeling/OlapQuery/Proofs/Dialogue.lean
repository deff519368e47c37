import OlapQuery.Execution
import OlapQuery.Proofs.NestingDepth

-- A run as a dialogue with the engine: it ends, it is stuck, or it asks a query and goes on with
-- the rows that come back. A dialogue knows no answers but those it has been given, which is why
-- a run depends on nothing that comes later, and stops where it fails.

namespace OlapQuery

-- What makes an answer incomplete is never a matter of planning.
theorem Answer.collect_engine (answer : Answer) (error : CompileError) :
    answer.collect ≠ .error (.compile error) := by
  unfold Answer.collect
  split
  · nofun
  · nofun
  · split <;> nofun

inductive Dialogue (α : Type) where
  | ends (result : α)
  -- A nested level cannot be bound to a row, or cannot be planned then.
  | stuck (stop : Stop CompileError)
  | asks (level : Level) (query : NativeQuery) (next : List Row → Dialogue α)

namespace Dialogue

protected def bind : Dialogue α → (α → Dialogue β) → Dialogue β
  | .ends a,f => f a
  | .stuck stop,_ => .stuck stop
  | .asks level query next,f => .asks level query fun rows => (next rows).bind f

instance : Monad Dialogue where
  pure := .ends
  bind := Dialogue.bind

def ofCompiled : Compiled α → Dialogue α
  | .ok a => .ends a
  | .error stop => .stuck stop

def ownRows (l : Level) : Dialogue (List Row) :=
  match l.query with
  | some query => .asks l query fun rows => .ends (l.post.apply rows)
  | none => .ends [[]]

-- A level and what is nested in its rows, down to `depth` levels below.
def ofLevel (dataset : Dataset) : Nat → Level → Dialogue (List Row)
  | 0,l => ownRows l
  | depth + 1,l => do
      let rows ← ownRows l
      rows.mapM fun row =>
        l.nested.foldlM (fun row nested => do
          let bound ← ofCompiled (l.bind dataset row nested)
          let below ← ofCompiled (planLevel dataset bound)
          let rowsBelow ← ofLevel dataset depth below
          return row.insert nested.name (.arr (rowsBelow.map .obj))) row

def issues : Dialogue α → List Answer → List NativeQuery
  | .ends _,_ => []
  | .stuck _,_ => []
  | .asks _ query _,[] => [query]
  | .asks _ query next,answer :: rest =>
      match answer.collect with
      | .ok rows => query :: (next rows).issues rest
      | .error _ => [query]

def result : Dialogue α → List Answer → Except (Stop ExecutionError) α
  | .ends a,_ => .ok a
  | .stuck stop,_ => .error (stop.map .compile)
  | .asks _ _ _,[] => .error (.refused (.query "no answer"))
  | .asks _ _ next,answer :: rest =>
      match answer.collect with
      | .ok rows => (next rows).result rest
      | .error error => .error (.refused error)

-- Where a dialogue stands after these answers; nowhere if one of them is not complete.
def after : Dialogue α → List Answer → Option (Dialogue α)
  | .asks _ _ next,answer :: rest =>
      match answer.collect with
      | .ok rows => (next rows).after rest
      | .error _ => none
  | d,_ => some d

instance : LawfulMonad Dialogue := by
  refine LawfulMonad.mk' _ ?_ ?_ ?_
  · intro α d
    induction d with
    | ends a => rfl
    | stuck stop => rfl
    | asks level query next ih => exact congrArg (Dialogue.asks level query) (funext ih)
  · intro α β a f
    rfl
  · intro α β γ d f g
    induction d with
    | ends a => rfl
    | stuck stop => rfl
    | asks level query next ih => exact congrArg (Dialogue.asks level query) (funext ih)

def run : Dialogue α → Run α
  | .ends a => pure a
  | .stuck stop => Run.ofCompiled (.error stop)
  | .asks _ query next => Run.request query >>= fun rows => (next rows).run

section Running

variable {α β : Type}

theorem run_bind (d : Dialogue α) (f : α → Dialogue β) :
    (d >>= f).run = d.run >>= fun a => (f a).run := by
  induction d with
  | ends a =>
      change (f a).run = (pure a : Run α) >>= fun a => (f a).run
      rw [pure_bind]
  | stuck stop => rfl
  | asks level query next ih =>
      change (Run.request query >>= fun rows => (next rows >>= f).run) = _
      rw [run,bind_assoc]
      exact bind_congr ih

theorem run_ofCompiled (x : Compiled α) : (ofCompiled x).run = Run.ofCompiled x := by
  cases x <;> rfl

theorem run_ownRows (l : Level) : (ownRows l).run = Run.ownRows l := by
  unfold ownRows Run.ownRows
  cases l.query <;> rfl

theorem run_foldlM (f : β → α → Dialogue β) (as : List α) (b : β) :
    (as.foldlM f b).run = as.foldlM (fun b a => (f b a).run) b := by
  induction as generalizing b with
  | nil => rfl
  | cons a rest ih =>
      rw [List.foldlM_cons,List.foldlM_cons,run_bind]
      exact bind_congr ih

theorem run_mapM (f : α → Dialogue β) (as : List α) :
    (as.mapM f).run = as.mapM fun a => (f a).run := by
  induction as with
  | nil => simp; rfl
  | cons a rest ih =>
      rw [List.mapM_cons,List.mapM_cons,run_bind]
      refine bind_congr fun b => ?_
      rw [run_bind,ih]
      rfl

theorem run_ofLevel (dataset : Dataset) (depth : Nat) (l : Level) :
    (ofLevel dataset depth l).run = Run.level dataset depth l := by
  induction depth generalizing l with
  | zero => exact run_ownRows l
  | succ depth ih =>
      rw [ofLevel,Run.level,run_bind,run_ownRows]
      refine bind_congr fun rows => ?_
      rw [run_mapM]
      congr 1; funext row
      rw [run_foldlM]
      congr 1; funext row nested
      rw [run_bind,run_ofCompiled]
      refine bind_congr fun bound => ?_
      rw [run_bind,run_ofCompiled]
      refine bind_congr fun below => ?_
      rw [run_bind,ih]
      rfl

theorem request_session (query : NativeQuery) (answer : Answer) (rest : List Answer)
    (issued : List NativeQuery) : (Run.request query).run.run { answers := answer :: rest,issued }
      = (answer.collect.mapError .refused,{ answers := rest,issued := issued ++ [query] }) :=
  rfl

theorem bind_session (x : Run α) (f : α → Run β) (s : Session) :
    (x >>= f).run.run s = match x.run.run s with
      | (.ok a,t) => (f a).run.run t
      | (.error stop,t) => (.error stop,t) := by
  rw [ExceptT.run_bind,StateT.run_bind]
  rcases x.run.run s with ⟨result,t⟩
  cases result <;> rfl

theorem run_session (d : Dialogue α) (answers : List Answer) (issued : List NativeQuery) :
    ∃ left, d.run.run.run { answers,issued }
      = (d.result answers,{ answers := left,issued := issued ++ d.issues answers }) := by
  induction d generalizing answers issued with
  | ends a => exact ⟨answers,by simp [issues]; rfl⟩
  | stuck stop => exact ⟨answers,by simp [issues]; rfl⟩
  | asks level query next ih =>
      cases answers with
      | nil => exact ⟨[],rfl⟩
      | cons answer rest =>
          rw [run,bind_session,request_session,result,issues]
          cases complete : answer.collect with
          | error error => exact ⟨rest,rfl⟩
          | ok rows =>
              obtain ⟨left,ran⟩ := ih rows rest (issued ++ [query])
              exact ⟨left,by simpa [Except.mapError] using ran⟩

end Running

section Answers

variable {α : Type} {d : Dialogue α} {answers : List Answer} {n : Nat}

-- The queries up to the next are settled by the answers so far.
theorem issues_take {xs ys : List Answer} (same : xs.take n = ys.take n) :
    (d.issues xs).take (n + 1) = (d.issues ys).take (n + 1) := by
  induction d generalizing n xs ys with
  | ends a => rfl
  | stuck stop => rfl
  | asks level query next ih =>
      have first (zs : List Answer) : ((asks level query next).issues zs).take 1 = [query] := by
        cases zs with
        | nil => rfl
        | cons answer rest =>
            rw [issues]
            cases answer.collect <;> rfl
      cases n with
      | zero => rw [first,first]
      | succ n =>
          cases xs with
          | nil => cases ys <;> simp_all
          | cons x xs =>
              cases ys with
              | nil => simp at same
              | cons y ys =>
                  simp only [List.take_succ_cons,List.cons.injEq] at same
                  obtain ⟨rfl,same⟩ := same
                  rw [issues,issues]
                  cases x.collect with
                  | error error => rfl
                  | ok rows => simpa using ih rows same

theorem ends_incomplete {answer : Answer} {error : ExecutionError}
    (given : answers[n]? = some answer) (asked : n < (d.issues answers).length)
    (incomplete : answer.collect = .error error) :
    (d.issues answers).length = n + 1 ∧ d.result answers = .error (.refused error) := by
  induction d generalizing n answers with
  | ends a => cases asked
  | stuck stop => cases asked
  | asks level query next ih =>
      cases answers with
      | nil => simp at given
      | cons first rest =>
          rw [issues] at asked ⊢
          rw [result]
          cases n with
          | zero =>
              cases given
              rw [incomplete]
              exact ⟨rfl,rfl⟩
          | succ n =>
              cases complete : first.collect with
              | error other => simp [complete] at asked
              | ok rows =>
                  rw [complete] at asked
                  have later : rest[n]? = some answer := by simpa using given
                  obtain ⟨last,fails⟩ := ih rows later (Nat.lt_of_succ_lt_succ asked)
                  exact ⟨congrArg Nat.succ last,fails⟩

@[simp] theorem after_ends (a : α) (answers : List Answer) :
    (ends a).after answers = some (.ends a) := by
  cases answers <;> rfl

@[simp] theorem after_stuck (stop : Stop CompileError) (answers : List Answer) :
    (stuck stop : Dialogue α).after answers = some (.stuck stop) := by
  cases answers <;> rfl

theorem ends_stuck {stop : Stop CompileError}
    (stands : d.after (answers.take n) = some (.stuck stop)) :
    (d.issues answers).length ≤ n ∧ d.result answers = .error (stop.map .compile) := by
  induction d generalizing n answers with
  | ends a => simp at stands
  | stuck other =>
      have same : other = stop := by simpa using stands
      exact ⟨Nat.zero_le n,by rw [result,same]⟩
  | asks level query next ih =>
      cases n with
      | zero => cases stands
      | succ n =>
          cases answers with
          | nil => cases stands
          | cons first rest =>
              rw [List.take_succ_cons,after] at stands
              rw [issues,result]
              cases complete : first.collect with
              | error other => simp [complete] at stands
              | ok rows =>
                  rw [complete] at stands
                  obtain ⟨last,fails⟩ := ih rows stands
                  exact ⟨Nat.succ_le_succ last,fails⟩

theorem stuck_ends {stop : Stop CompileError}
    (fails : d.result answers = .error (stop.map .compile)) :
    d.after (answers.take (d.issues answers).length) = some (.stuck stop) := by
  induction d generalizing answers with
  | ends a => cases fails
  | stuck other =>
      have same : other = stop := by cases other <;> cases stop <;> cases fails <;> rfl
      exact congrArg (fun stop => some (Dialogue.stuck stop)) same
  | asks level query next ih =>
      cases answers with
      | nil => cases stop <;> cases fails
      | cons first rest =>
          rw [result] at fails
          rw [issues]
          cases complete : first.collect with
          | error other =>
              rw [complete] at fails
              cases stop with
              | refused error =>
                  have failure : other = .compile error := by simpa [Stop.map] using fails
                  exact absurd (failure ▸ complete) (first.collect_engine error)
              | panicked => cases fails
          | ok rows =>
              rw [complete] at fails
              change after _ (first :: rest.take _) = _
              rw [after,complete]
              exact ih rows fails

end Answers

-- What a dialogue comes to if its answers are as supposed: what has been asked once it ends, and
-- what it can be stuck at.
def Promises (supposed : Level → List Row → Prop) (stuckAt : Stop CompileError → Prop) :
    Dialogue α → (List NativeQuery → α → Prop) → Prop
  | .ends a,ending => ending [] a
  | .stuck stop,_ => stuckAt stop
  | .asks level query next,ending => ∀ rows, supposed level rows →
      (next rows).Promises supposed stuckAt fun asked a => ending (query :: asked) a

section Promises

variable {α β : Type} {supposed : Level → List Row → Prop} {stuckAt : Stop CompileError → Prop}

theorem Promises.imp {d : Dialogue α} {ending other : List NativeQuery → α → Prop}
    (promised : d.Promises supposed stuckAt ending) (weaker : ∀ asked a, ending asked a → other asked a) :
    d.Promises supposed stuckAt other := by
  induction d generalizing ending other with
  | ends a => exact weaker [] a promised
  | stuck stop => exact promised
  | asks level query next ih =>
      intro rows given
      exact ih rows (promised rows given) fun asked a => weaker (query :: asked) a

theorem promises_bind {d : Dialogue α} {f : α → Dialogue β} {ending : List NativeQuery → β → Prop} :
    (d >>= f).Promises supposed stuckAt ending ↔ d.Promises supposed stuckAt fun early a =>
      (f a).Promises supposed stuckAt fun late b => ending (early ++ late) b := by
  induction d generalizing ending with
  | ends a => rfl
  | stuck stop => rfl
  | asks level query next ih =>
      exact forall_congr' fun rows => imp_congr_right fun _ => ih rows

theorem promises_compiled {x : Compiled α} {ending : List NativeQuery → α → Prop} :
    (ofCompiled x).Promises supposed stuckAt ending ↔
      (∀ a, x = .ok a → ending [] a) ∧ ∀ stop, x = .error stop → stuckAt stop := by
  cases x with
  | ok a => simp [ofCompiled,Promises]
  | error stop => simp [ofCompiled,Promises]

-- One round of a loop after the other. The invariant speaks of what is left to do, and of what
-- has been asked.
theorem promises_foldlM {f : β → α → Dialogue β} (invariant : List α → List NativeQuery → β → Prop)
    (kept : ∀ a rest asked b, invariant (a :: rest) asked b →
      (f b a).Promises supposed stuckAt fun more next => invariant rest (asked ++ more) next)
    {as : List α} (asked : List NativeQuery) {b : β} (start : invariant as asked b) :
    (as.foldlM f b).Promises supposed stuckAt fun more last => invariant [] (asked ++ more) last := by
  induction as generalizing asked b with
  | nil => simpa [Promises,pure] using start
  | cons a rest ih =>
      rw [List.foldlM_cons,promises_bind]
      refine (kept a rest asked b start).imp fun early next reached => ?_
      exact (ih _ reached).imp fun late last ended => by rwa [← List.append_assoc]

theorem promises_mapM {f : α → Dialogue β} {as : List α}
    (each : ∀ a ∈ as, (f a).Promises supposed stuckAt fun _ _ => True) :
    (as.mapM f).Promises supposed stuckAt fun _ _ => True := by
  induction as with
  | nil => simp [Promises,pure]
  | cons a rest ih =>
      rw [List.forall_mem_cons] at each
      rw [List.mapM_cons,promises_bind]
      refine each.1.imp fun early b _ => promises_bind.mpr ?_
      exact (ih each.2).imp fun late bs _ => trivial

theorem Promises.stuck {d : Dialogue α} {ending : List NativeQuery → α → Prop}
    (promised : d.Promises (fun _ _ => True) stuckAt ending) {answers : List Answer}
    {stop : Stop CompileError} (stands : d.after answers = some (.stuck stop)) : stuckAt stop := by
  induction d generalizing answers ending with
  | ends a => simp at stands
  | stuck other =>
      have same : other = stop := by simpa using stands
      exact same ▸ promised
  | asks level query next ih =>
      cases answers with
      | nil => cases stands
      | cons first rest =>
          rw [after] at stands
          cases complete : first.collect with
          | error other => simp [complete] at stands
          | ok rows =>
              rw [complete] at stands
              exact ih rows (promised rows trivial) stands

end Promises

-- Some nested level cannot be bound to some row, or cannot be planned once it is.
def Unplannable (dataset : Dataset) (stop : Stop CompileError) : Prop :=
  ∃ (level : Level) (row : Row) (nested : Nested), level.bind dataset row nested = .error stop ∨
    ∃ bound, level.bind dataset row nested = .ok bound ∧ planLevel dataset bound = .error stop

theorem ofLevel_unplannable (dataset : Dataset) (depth : Nat) (l : Level) :
    (ofLevel dataset depth l).Promises (fun _ _ => True) (Unplannable dataset) fun _ _ => True := by
  have own (l : Level) :
      (ownRows l).Promises (fun _ _ => True) (Unplannable dataset) fun _ _ => True := by
    unfold ownRows
    cases l.query <;> simp [Promises]
  induction depth generalizing l with
  | zero => exact own l
  | succ depth ih =>
      rw [ofLevel,promises_bind]
      refine (own l).imp fun _ rows _ => promises_mapM fun row _ => ?_
      refine (promises_foldlM (fun _ _ _ => True) (fun nested _ _ row _ => ?_) [] trivial).imp
        fun _ _ _ => trivial
      rw [promises_bind,promises_compiled]
      refine ⟨fun bound binds => ?_,fun stop fails => ⟨l,row,nested,.inl fails⟩⟩
      rw [promises_bind,promises_compiled]
      refine ⟨fun below plans => ?_,fun stop fails => ⟨l,row,nested,.inr ⟨bound,binds,fails⟩⟩⟩
      exact promises_bind.mpr ((ih below).imp fun _ _ _ => trivial)

end Dialogue

namespace Run

def outcome (dataset : Dataset) (depth : Nat) (l : Level) (answers : List Answer) : Outcome :=
  let (result,session) := (level dataset depth l).run.run { answers }
  { issued := session.issued,result }

theorem outcome_dialogue (dataset : Dataset) (depth : Nat) (l : Level) (answers : List Answer) :
    outcome dataset depth l answers = {
      issued := (Dialogue.ofLevel dataset depth l).issues answers
      result := (Dialogue.ofLevel dataset depth l).result answers } := by
  obtain ⟨left,ran⟩ := (Dialogue.ofLevel dataset depth l).run_session answers []
  rw [Dialogue.run_ofLevel] at ran
  rw [outcome,ran]
  rfl

-- The queries up to the next depend on the answers so far; and a run whose answer breaks off, or
-- that cannot go on with the rows it got, asks nothing more and returns that failure only. Where
-- it panics while it plans a nested level, it asks nothing more either, and returns nothing.
theorem causal_fail_stop (dataset : Dataset) (depth : Nat) (root : Level) :
    (∀ n xs ys, xs.take n = ys.take n → (outcome dataset depth root xs).issued.take (n + 1)
      = (outcome dataset depth root ys).issued.take (n + 1)) ∧
    (∀ n answers answer reason, answers[n]? = some answer →
      n < (outcome dataset depth root answers).issued.length →
      answer.refusal = some reason ∨ answer.refusal = none ∧ answer.breakOff = some reason →
        (outcome dataset depth root answers).issued.length = n + 1 ∧
        (outcome dataset depth root answers).result = .error (.refused (.query reason))) ∧
    (∀ n answers stop,
      (Dialogue.ofLevel dataset depth root).after (answers.take n) = some (.stuck stop) →
        Dialogue.Unplannable dataset stop ∧
        (outcome dataset depth root answers).issued.length ≤ n ∧
        (outcome dataset depth root answers).result = .error (stop.map .compile)) ∧
    (∀ answers stop, (outcome dataset depth root answers).result = .error (stop.map .compile) →
      (Dialogue.ofLevel dataset depth root).after
        (answers.take (outcome dataset depth root answers).issued.length) = some (.stuck stop)) ∧
    ∀ e answers, planLevel dataset e = .ok root →
      execute dataset e answers false = .ok (outcome dataset e.nestingDepth root answers) := by
  simp only [outcome_dialogue]
  refine ⟨fun n xs ys same => Dialogue.issues_take same,?_,?_,?_,?_⟩
  · intro n answers answer reason given asked fails
    refine Dialogue.ends_incomplete given asked ?_
    rcases fails with refused | ⟨taken,broken⟩
    · simp [Answer.collect,refused]
    · simp [Answer.collect,taken,broken]
  · intro n answers stop stands
    exact ⟨(Dialogue.ofLevel_unplannable dataset depth root).stuck stands,Dialogue.ends_stuck stands⟩
  · exact fun answers stop fails => Dialogue.stuck_ends fails
  · intro e answers plans
    rw [execute,plans,← outcome_dialogue]
    rfl

end Run

namespace Visits

def lost : Row :=
  [("City",.arr [])]

def refused : List Answer :=
  [{ rows := [oslo,oslo] },{ refusal := some "down" },{ rows := [oslo] }]

def confused : List Answer :=
  [{ rows := [lost,oslo] },{ rows := [oslo] }]

theorem second_query_refused :
    ∃ root error, planLevel visits byCity = .ok root ∧
      (Run.outcome visits 1 root refused).issued.take 2
        = (Run.outcome visits 1 root (refused.take 1)).issued.take 2 ∧
      (Run.outcome visits 1 root refused).issued.length = 2 ∧
      (Run.outcome visits 1 root refused).result = .error (.refused (.query "down")) ∧
      (Run.outcome visits 1 root confused).issued.length ≤ 1 ∧
      (Run.outcome visits 1 root confused).result = .error (.refused (.compile error)) ∧
      execute visits byCity confused false = .ok (Run.outcome visits 1 root confused) := by
  obtain ⟨root,plans,asked,error,stands⟩ : ∃ root, planLevel visits byCity = .ok root ∧
      1 < (Run.outcome visits 1 root refused).issued.length ∧
      ∃ error, (Dialogue.ofLevel visits 1 root).after (confused.take 1) = some (.stuck (.refused error)) :=
    ⟨_,rfl,by decide +kernel,_,rfl⟩
  obtain ⟨causal,failStop,stuck,-,executed⟩ := Run.causal_fail_stop visits 1 root
  have stopped := failStop 1 refused _ "down" rfl asked (.inl rfl)
  obtain ⟨-,silent,failed⟩ := stuck 1 confused (.refused error) stands
  exact ⟨root,error,plans,causal 1 refused (refused.take 1) rfl,stopped.1,stopped.2,silent,failed,
    executed byCity confused plans⟩

end Visits

end OlapQuery
