import OlapQuery.Proofs.SplitChains

-- Runs over a chain and over the renamed chain. As long as the names mean the same, each step is
-- taken in both or in none.

namespace OlapQuery

open Compiled (bind_ok pure_ok run_keeps unsupported_ok)
open Fold (Rows rowsStep rowsFilter rowsSplit rowsApply rowsSort)

theorem overlooked_moved {σ : String → String} {steps : List Step} {name : String}
    (read : name ∈ overlooked σ steps) : σ name ≠ name := by
  induction steps generalizing σ with
  | nil => cases read
  | cons step rest ih =>
      rcases List.mem_append.mp read with own | later
      · simpa using (List.mem_filter.mp own).2
      · have moved := ih later
        cases step with
        | apply other x =>
            have apart : name ≠ other := by
              rintro rfl
              exact moved (Function.update_self _ _ _)
            simpa only [Step.namesAfter,Function.update_of_ne apart] using moved
        | _ => exact moved

-- Rows of a chain and of the renamed chain, with the steps still to come.
structure RowsAlike (σ : String → String) (new : List String) (dataName : Option String)
    (steps : List Step) (q other : Rows) : Prop where
  scope : q.scope.Alike σ new other.scope
  overlooked : ∀ name ∈ overlooked σ steps, other.scope.resolve name = q.scope.resolve name
  split : q.split.map (·.dataName) = dataName
  split' : other.split.map (·.dataName) = dataName
  sort : other.sort.isSome = q.sort.isSome
  limit : other.limit = q.limit

section Steps

variable {σ : String → String} {new : List String} {dataName : Option String}
  {rest : List Step} {q other : Rows} {root : String}

theorem RowsAlike.splitSame {steps : List Step}
    (alike : RowsAlike σ new dataName steps q other) :
    other.split.isSome = q.split.isSome := by
  have same := congrArg Option.isSome (alike.split'.trans alike.split.symm)
  simpa using same

theorem RowsAlike.checks {e : Expr} {steps : List Step}
    (alike : RowsAlike σ new dataName steps q other)
    (avoids : ∀ name, Expr.Mentions name e → name ∉ new)
    (read : ∀ name ∈ e.namesInside, σ name ≠ name → name ∈ OlapQuery.overlooked σ steps) :
    other.scope.infer (e.renamed σ) = q.scope.infer e :=
  alike.scope.infer (fun name outside => avoids name ((e.mentions_iff name).mpr (.inl outside)))
    fun name inside => ⟨avoids name ((e.mentions_iff name).mpr (.inr inside)),
      fun moved => alike.overlooked name (read name inside moved)⟩

theorem RowsAlike.later {step : Step} (alike : RowsAlike σ new dataName (step :: rest) q other)
    (kept : step.namesAfter σ = σ) : RowsAlike σ new dataName rest q other :=
  { alike with overlooked := fun name read =>
      alike.overlooked name (List.mem_append_right _ (kept.symm ▸ read)) }

theorem overlooked_next (step : Step) {name : String} (read : name ∈ step.inside)
    (moved : σ name ≠ name) : name ∈ overlooked σ (step :: rest) :=
  List.mem_append_left _ (List.mem_filter.mpr ⟨read,by simpa using moved⟩)

theorem filter_together {condition : Expr}
    (alike : RowsAlike σ new dataName (.filter condition :: rest) q other)
    (avoids : (Step.filter condition).Avoids new) :
    Together (RowsAlike σ new dataName rest) (rowsFilter q condition)
      (rowsFilter other (condition.renamed σ)) := by
  have typed : other.scope.infer (condition.renamed σ) = q.scope.infer condition :=
    alike.checks (avoids.parts condition List.mem_cons_self) fun _ => overlooked_next (.filter condition)
  have checked : other.scope.checkBoolean (condition.renamed σ) = q.scope.checkBoolean condition := by
    rw [Scope.checkBoolean,Scope.checkBoolean,typed]
  have later := alike.later rfl
  rw [rowsFilter,rowsFilter,checked,alike.splitSame,alike.sort,alike.limit]
  cases q.scope.checkBoolean condition with
  | error => exact .error
  | ok =>
      cases q.split.isSome with
      | true =>
          exact .ok ⟨later.scope,later.overlooked,later.split,later.split',later.sort,rfl⟩
      | false =>
          cases q.sort.isSome || q.limit.isSome with
          | true => exact .error
          | false =>
              exact .ok ⟨later.scope,later.overlooked,later.split,later.split',
                later.sort,rfl⟩

theorem sort_together {key : Expr} {direction : Direction}
    (alike : RowsAlike σ new dataName (.sort key direction :: rest) q other)
    (avoids : (Step.sort key direction).Avoids new) :
    Together (RowsAlike σ new dataName rest) (rowsSort q key direction)
      (rowsSort other (key.renamed σ) direction) := by
  have later := alike.later rfl
  rw [rowsSort,rowsSort,Expr.refName_renamed,alike.limit]
  cases named : key.refName? with
  | none => exact .error
  | some name =>
      have mentioned : Expr.Mentions name key := by
        cases key <;> cases named
        exact List.mem_singleton_self _
      have old := avoids.parts key List.mem_cons_self name mentioned
      dsimp only [Option.map_some]
      rw [(alike.scope.resolves old).1]
      cases (q.scope.resolve name).isNone with
      | true => exact .error
      | false =>
          cases q.limit.isSome with
          | true => exact .error
          | false =>
              exact .ok ⟨later.scope,later.overlooked,later.split,later.split',rfl,rfl⟩

theorem RowsAlike.declare {name : String} {x : Expr}
    (alike : RowsAlike σ new dataName (.apply name x :: rest) q other)
    (old : name ∉ new) (type : DataType) :
    RowsAlike (Function.update σ name name) new dataName rest
      { q with scope := q.scope.declare name type }
      { other with scope := other.scope.declare name type } := by
  refine ⟨alike.scope.declare old type,fun another read => ?_,alike.split,alike.split',alike.sort,
    alike.limit⟩
  have apart : another ≠ name := by
    rintro rfl
    exact overlooked_moved read (Function.update_self _ _ _)
  rw [Scope.resolve_declare apart,Scope.resolve_declare apart]
  exact alike.overlooked another (List.mem_append_right _ read)

theorem apply_together {name : String} {x : Expr}
    (alike : RowsAlike σ new dataName (.apply name x :: rest) q other)
    (avoids : (Step.apply name x).Avoids new) :
    Together (RowsAlike (Function.update σ name name) new dataName rest)
      (rowsApply root q name x)
      (rowsApply root other name (if x.hasSplit then x else x.renamed σ)) := by
  have old := avoids.declares name List.mem_cons_self
  have declared := alike.declare old
  have same := alike.splitSame
  rw [rowsApply,rowsApply]
  cases here : q.split with
  | none =>
      rw [here,Option.isSome_none,Option.isSome_eq_false_iff,Option.isNone_iff_eq_none] at same
      rw [same]
      exact .error
  | some split =>
      rw [here,Option.isSome_some] at same
      obtain ⟨split',there⟩ := Option.isSome_iff_exists.mp same
      have parts : split'.dataName = split.dataName := by
        have both := alike.split'.trans alike.split.symm
        rw [here,there] at both
        exact Option.some.inj both
      rw [there]
      dsimp only
      by_cases inner : x.hasSplit = true
      · have next := declared .dataset
        rw [if_pos inner,if_pos inner,if_pos inner]
        exact .ok ⟨next.scope,next.overlooked,here ▸ next.split,there ▸ next.split',
          next.sort,next.limit⟩
      · have typed : other.scope.infer (x.renamed σ) = q.scope.infer x := by
          refine alike.checks (avoids.parts x List.mem_cons_self) fun name read moved => ?_
          exact overlooked_next (.apply _ x) (by simpa [Step.inside,inner] using read) moved
        have resolved := Expr.resolveAggregates_renamed σ (Fold.splitRoot split.dataName) x
        rw [if_neg inner,if_neg inner,if_neg (by rwa [Expr.hasSplit_renamed]),typed,parts]
        cases q.scope.infer x with
        | error => exact .error
        | ok type =>
            have next := declared type
            exact resolved.bind fun _ _ _ => .ok ⟨next.scope,next.overlooked,
              here ▸ next.split,there ▸ next.split',next.sort,next.limit⟩

theorem step_together {step : Step}
    (alike : RowsAlike σ new dataName (step :: rest) q other) (avoids : step.Avoids new)
    (after : step.isSplit = true → dataName.isSome = true) :
    Together (RowsAlike (step.namesAfter σ) new dataName rest)
      (rowsStep root q step) (rowsStep root other (step.renamed σ)) := by
  cases step with
  | filter condition => exact filter_together alike avoids
  | apply name x => exact apply_together alike avoids
  | sort key direction => exact sort_together alike avoids
  | limit count =>
      have later := alike.later rfl
      refine .ok ⟨later.scope,later.overlooked,later.split,later.split',later.sort,?_⟩
      rw [alike.limit]
  | split keys name =>
      have already : q.split.isSome = true := by
        have same := congrArg Option.isSome alike.split
        rwa [Option.isSome_map,after rfl] at same
      have too := alike.splitSame.trans already
      simp only [Step.renamed,rowsStep,rowsSplit,already,too,if_true]
      exact .error

theorem steps_together (root : String) {steps : List Step}
    (alike : RowsAlike σ new dataName steps q other) (avoid : ∀ step ∈ steps, step.Avoids new)
    (after : ∀ step ∈ steps, step.isSplit = true → dataName.isSome = true) :
    Together (RowsAlike (steps.foldl (fun σ step => step.namesAfter σ) σ) new dataName [])
      (steps.foldlM (rowsStep root) q) ((renamedSteps σ steps).foldlM (rowsStep root) other) := by
  induction steps generalizing σ q other with
  | nil => exact .ok alike
  | cons step rest ih =>
      obtain ⟨first,later⟩ := List.forall_mem_cons.mp avoid
      obtain ⟨own,others⟩ := List.forall_mem_cons.mp after
      rw [renamedSteps,List.foldlM_cons,List.foldlM_cons]
      exact (step_together alike first own).bind fun _ _ alike => ih alike later others

theorem renamedSteps_id (steps : List Step) : renamedSteps id steps = steps ∧
    steps.foldl (fun σ step => step.namesAfter σ) id = id := by
  induction steps with
  | nil => exact ⟨rfl,rfl⟩
  | cons step rest ih =>
      have still : step.namesAfter id = id := by
        cases step with
        | apply name x => exact Function.update_eq_self name id
        | _ => rfl
      have same : step.renamed id = step := by
        have self (e : Expr) : e.renamed id = e := Expr.renamed_self id fun _ _ => rfl
        cases step <;> simp [Step.renamed,self]
      rw [renamedSteps,List.foldl_cons,still,same,ih.1]
      exact ⟨rfl,ih.2⟩

end Steps

section Runs

variable {root : String} {scope : Scope} {steps : List Step} {q : Rows}

theorem unsplit_scope (ran : steps.foldlM (rowsStep root) { scope } = .ok q)
    (unsplit : Step.Unsplit steps) : q.scope = scope ∧ q.split = none := by
  have kept (taken : List Step) (q : Rows) (step : Step) (next : Rows)
      (before : Step.Unsplit taken → q.scope = scope ∧ q.split = none)
      (ran : rowsStep root q step = .ok next) :
      Step.Unsplit (taken ++ [step]) → next.scope = scope ∧ next.split = none := by
    intro unsplit
    obtain ⟨early,last⟩ := Step.unsplit_append.mp unsplit
    obtain ⟨same,none⟩ := before early
    cases Fold.rowsStep_taken ran with
    | filtered checked unsplit unsorted unlimited => exact ⟨same,none⟩
    | sorted named known unlimited => exact ⟨same,none⟩
    | limited => exact ⟨same,none⟩
    | split unsplit unsorted unlimited keyed declared =>
        exact nomatch last _ List.mem_cons_self
    | having checked already => rw [none] at already; cases already
    | nested already inner => rw [none] at already; cases already
    | applied already flat typed resolves => rw [none] at already; cases already
  exact run_keeps (fun taken q => Step.Unsplit taken → q.scope = scope ∧ q.split = none) kept
    (fun _ => ⟨rfl,rfl⟩) ran unsplit

theorem keys_present {keys : List (String × Expr)} {s next : Scope}
    (ran : keys.foldlM Fold.declareKey s = .ok next) {name : String}
    (known : (s.names.get? name).isSome = true ∨ name ∈ keys.map (·.1)) :
    (next.names.get? name).isSome = true := by
  have kept (taken : List (String × Expr)) (state : Scope) (key : String × Expr) (next : Scope)
      (before : (s.names.get? name).isSome = true ∨ name ∈ taken.map (·.1) →
        (state.names.get? name).isSome = true)
      (ran : Fold.declareKey state key = .ok next) :
      (s.names.get? name).isSome = true ∨ name ∈ (taken ++ [key]).map (·.1) →
        (next.names.get? name).isSome = true := by
    intro known
    unfold Fold.declareKey at ran
    split at ran
    · exact absurd ran unsupported_ok
    · obtain ⟨type,-,rest⟩ := bind_ok.mp ran
      cases pure_ok.mp rest
      refine Scope.declare_kept type ?_
      rw [List.map_append,List.mem_append,← or_assoc] at known
      exact known.imp before List.mem_singleton.mp
  exact run_keeps (fun taken next => (s.names.get? name).isSome = true ∨ name ∈ taken.map (·.1) →
    (next.names.get? name).isSome = true) kept (fun known => known.resolve_right (nomatch ·)) ran known

theorem steps_present (ran : steps.foldlM (rowsStep root) { scope } = .ok q) :
    ∀ step ∈ steps, ∀ name ∈ step.declares, (q.scope.names.get? name).isSome = true := by
  refine run_keeps (fun taken q => ∀ step ∈ taken, ∀ name ∈ step.declares,
    (q.scope.names.get? name).isSome = true) ?_ nofun ran
  intro taken q step next before ran
  refine List.forall_mem_append.mpr ⟨fun earlier listed name declares => ?_,?_⟩
  · have known := before earlier listed name declares
    cases Fold.rowsStep_taken ran with
    | filtered | having | sorted | limited => exact known
    | nested already inner => exact Scope.declare_kept _ (.inl known)
    | applied already flat typed resolves => exact Scope.declare_kept _ (.inl known)
    | split unsplit unsorted unlimited keyed declared => exact keys_present declared (.inl known)
  · refine List.forall_mem_singleton.mpr fun name declares => ?_
    cases Fold.rowsStep_taken ran with
    | filtered | having | sorted | limited => cases declares
    | nested already inner => exact Scope.declare_kept _ (.inr (List.mem_singleton.mp declares))
    | applied already flat typed resolves =>
        exact Scope.declare_kept _ (.inr (List.mem_singleton.mp declares))
    | split unsplit unsorted unlimited keyed declared => exact keys_present declared (.inr declares)

theorem totals_unsplit {folded : FoldedQuery}
    (ran : Fold.totals scope steps = .ok folded) : Step.Unsplit steps := by
  obtain ⟨t,run,-⟩ := Fold.totals_parts ran
  refine run_keeps (fun taken _ => Step.Unsplit taken) ?_ nofun run
  intro taken t step next before ran
  refine Step.unsplit_append.mpr ⟨before,fun last listed => ?_⟩
  cases List.mem_singleton.mp listed
  cases Fold.totalsStep_taken ran <;> rfl

end Runs

section LastNames

variable {σ : String → String} {steps : List Step} {name : String}

theorem name_stays (still : σ name = name) :
    steps.foldl (fun σ step => step.namesAfter σ) σ name = name := by
  induction steps generalizing σ with
  | nil => exact still
  | cons step rest ih =>
      refine ih ?_
      cases step with
      | apply other x => by_cases own : name = other <;> simp [Step.namesAfter,Function.update,own,still]
      | _ => exact still

theorem name_taken {x : Expr} (taken : .apply name x ∈ steps) :
    steps.foldl (fun σ step => step.namesAfter σ) σ name = name := by
  obtain ⟨before,after,rfl⟩ := List.append_of_mem taken
  rw [List.foldl_append,List.foldl_cons]
  exact name_stays (Function.update_self _ _ _)

theorem name_kept (free : ∀ x, Step.apply name x ∉ steps) :
    steps.foldl (fun σ step => step.namesAfter σ) σ name = σ name := by
  induction steps generalizing σ with
  | nil => rfl
  | cons step rest ih =>
      rw [List.foldl_cons,ih fun x listed => free x (List.mem_cons_of_mem _ listed)]
      cases step with
      | apply other x =>
          have apart : name ≠ other := by
            rintro rfl
            exact free x List.mem_cons_self
          exact Function.update_of_ne apart _ _
      | _ => rfl

end LastNames

end OlapQuery
