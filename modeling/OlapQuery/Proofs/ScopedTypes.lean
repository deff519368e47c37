import Mathlib.Logic.Function.Basic
import OlapQuery.Proofs.FoldRun
import OlapQuery.Proofs.Renaming
import OlapQuery.Proofs.Tables

-- What the names of a scope stand for, while keys and applies are declared in it. Keys that are
-- no trap for one another have the types that they have without the others, in any order.

namespace OlapQuery

open Compiled (bind_ok pure_ok run_keeps unsupported_ok)

namespace Scope

section Resolution

variable {s other : Scope} {name : String} {type : DataType}

theorem resolve_named (named : s.names.get? name = some type) : s.resolve name = some type := by
  rw [resolve,named]

theorem resolve_unnamed (dataset : other.dataset = s.dataset)
    (datasets : name ∈ other.datasets ↔ name ∈ s.datasets) (unnamed : s.names.get? name = none)
    (free : other.names.get? name = none) : other.resolve name = s.resolve name := by
  have same : other.datasets.contains name = s.datasets.contains name := by
    rw [Bool.eq_iff_iff,List.contains_iff_mem,List.contains_iff_mem]
    exact datasets
  rw [resolve,resolve,unnamed,free,dataset,same]

theorem infer_congr {e : Expr}
    (same : ∀ name, Expr.Mentions name e → other.resolve name = s.resolve name) :
    other.infer e = s.infer e := by
  rw [infer,infer,Expr.inferType_congr same]

theorem resolve_declare {s : Scope} {name other : String} (apart : other ≠ name) (type : DataType) :
    (s.declare name type).resolve other = s.resolve other := by
  rw [resolve,declare,Table.get_insert,if_neg apart]
  rfl

theorem declare_kept {s : Scope} {name other : String} (type : DataType)
    (known : (s.names.get? name).isSome = true ∨ name = other) :
    ((s.declare other type).names.get? name).isSome = true := by
  rw [declare,Table.get_insert]
  split
  · rfl
  · rename_i apart
    exact known.resolve_right apart

end Resolution

-- A key that another key reads by name has the type that the name has already.
def Independent (s : Scope) (keys : List (String × Expr)) : Prop :=
  ∀ key ∈ keys, ∀ other ∈ keys, other.1 ≠ key.1 → Expr.Mentions key.1 other.2 →
    ∀ type, s.infer key.2 = .ok type → s.resolve key.1 = some type

theorem Independent.sublist {s : Scope} {keys few : List (String × Expr)}
    (whole : s.Independent keys) (part : ∀ key ∈ few, key ∈ keys) : s.Independent few :=
  fun key listed other member => whole key (part key listed) other (part other member)

-- The scope after keys were declared, each with the type that it has without the others.
structure Declared (s : Scope) (keys : List (String × Expr)) (next : Scope) : Prop where
  dataset : next.dataset = s.dataset
  datasets : next.datasets = s.datasets
  plain : ∀ key ∈ keys, key.2.containsAggregate = false
  types : ∀ key ∈ keys, ∃ type, s.infer key.2 = .ok type ∧ next.names.get? key.1 = some type
  others : ∀ name, name ∉ keys.map (·.1) → next.names.get? name = s.names.get? name

section Keys

variable {s next last : Scope} {keys taken rest : List (String × Expr)} {key : String × Expr}

theorem Declared.start (s : Scope) : s.Declared [] s :=
  ⟨rfl,rfl,nofun,nofun,fun _ _ => rfl⟩

theorem Declared.infer_next (declared : s.Declared taken next)
    (distinct : ((taken ++ [key]).map (·.1)).Nodup) (independent : s.Independent (taken ++ [key])) :
    next.infer key.2 = s.infer key.2 := by
  refine infer_congr fun name mentioned => ?_
  by_cases known : name ∈ taken.map (·.1)
  · obtain ⟨earlier,listed,rfl⟩ := List.mem_map.mp known
    obtain ⟨type,typed,named⟩ := declared.types earlier listed
    have apart : key.1 ≠ earlier.1 := by
      rw [List.map_append] at distinct
      exact fun same => (List.nodup_append.mp distinct).2.2 _ (List.mem_map_of_mem listed) _
        List.mem_cons_self same.symm
    rw [resolve_named named]
    exact (independent earlier (List.mem_append_left _ listed) key (by simp) apart mentioned type
      typed).symm
  · have same := declared.others name known
    cases before : s.names.get? name with
    | none =>
        exact resolve_unnamed declared.dataset (by rw [declared.datasets]) before (same.trans before)
    | some type => rw [resolve_named before,resolve_named (same.trans before)]

theorem Declared.step (declared : s.Declared taken next)
    (distinct : ((taken ++ [key]).map (·.1)).Nodup) (independent : s.Independent (taken ++ [key]))
    (ran : Fold.declareKey next key = .ok last) : s.Declared (taken ++ [key]) last := by
  unfold Fold.declareKey at ran
  split at ran
  · exact absurd ran unsupported_ok
  · rename_i plain
    obtain ⟨type,typed,rest⟩ := bind_ok.mp ran
    cases pure_ok.mp rest
    rw [declared.infer_next distinct independent] at typed
    rw [List.map_append] at distinct
    have apart : ∀ earlier ∈ taken, earlier.1 ≠ key.1 := fun earlier listed same =>
      (List.nodup_append.mp distinct).2.2 _ (List.mem_map_of_mem listed) _ List.mem_cons_self same
    refine ⟨declared.dataset,declared.datasets,?_,?_,?_⟩
    · exact List.forall_mem_append.mpr ⟨declared.plain,by simpa using plain⟩
    · intro other listed
      rcases List.mem_append.mp listed with earlier | own
      · obtain ⟨type,typed,named⟩ := declared.types other earlier
        exact ⟨type,typed,by rw [declare,Table.get_insert,if_neg (apart other earlier),named]⟩
      · cases List.mem_singleton.mp own
        exact ⟨type,typed,by rw [declare,Table.get_insert,if_pos rfl]⟩
    · intro name unlisted
      simp only [List.map_append,List.map_cons,List.map_nil,List.mem_append,List.mem_singleton,
        not_or] at unlisted
      rw [declare,Table.get_insert,if_neg unlisted.2,declared.others name unlisted.1]

theorem keys_declared (distinct : (keys.map (·.1)).Nodup) (independent : s.Independent keys)
    (ran : keys.foldlM Fold.declareKey s = .ok next) : s.Declared keys next := by
  have kept (taken : List (String × Expr)) (state : Scope) (key : String × Expr) (next : Scope)
      (before : (taken.map (·.1)).Nodup → s.Independent taken → s.Declared taken state)
      (ran : Fold.declareKey state key = .ok next) : ((taken ++ [key]).map (·.1)).Nodup →
        s.Independent (taken ++ [key]) → s.Declared (taken ++ [key]) next := by
    intro distinct independent
    have early := before (distinct.sublist ((List.sublist_append_left _ _).map _))
      (independent.sublist fun key listed => List.mem_append_left _ listed)
    exact early.step distinct independent ran
  have reached := run_keeps (fun taken next => (taken.map (·.1)).Nodup → s.Independent taken →
    s.Declared taken next) kept (fun _ _ => .start s) ran
  exact reached distinct independent

theorem keys_declare (declared : s.Declared taken next)
    (distinct : ((taken ++ rest).map (·.1)).Nodup) (independent : s.Independent (taken ++ rest))
    (typed : ∀ key ∈ rest, key.2.containsAggregate = false ∧ ∃ type, s.infer key.2 = .ok type) :
    ∃ last, rest.foldlM Fold.declareKey next = .ok last := by
  induction rest generalizing taken next with
  | nil => exact ⟨next,rfl⟩
  | cons key rest ih =>
      obtain ⟨⟨plain,type,types⟩,others⟩ := List.forall_mem_cons.mp typed
      rw [List.append_cons] at distinct independent
      have once : ((taken ++ [key]).map (·.1)).Nodup := by
        rw [List.map_append] at distinct
        exact (List.nodup_append.mp distinct).1
      have part := independent.sublist fun key listed => List.mem_append_left rest listed
      have first : Fold.declareKey next key = .ok (next.declare key.1 type) := by
        rw [Fold.declareKey,if_neg (by simp [plain]),declared.infer_next once part,types]
        rfl
      obtain ⟨last,ran⟩ := ih (declared.step once part first) distinct independent others
      exact ⟨last,by rw [List.foldlM_cons,first]; exact ran⟩

end Keys

-- A scope in which some names of another go by new ones.
structure Alike (σ : String → String) (new : List String) (s other : Scope) : Prop where
  dataset : other.dataset = s.dataset
  datasets : ∀ name, name ∉ new → (name ∈ other.datasets ↔ name ∈ s.datasets)
  names : ∀ name, name ∉ new → other.names.get? (σ name) = s.names.get? name
  moved : ∀ name, σ name ≠ name → σ name ∈ new ∧ (s.names.get? name).isSome = true

namespace Alike

variable {σ : String → String} {new : List String} {s other : Scope} {name : String}

theorem resolves (alike : Alike σ new s other) (old : name ∉ new) :
    other.resolve (σ name) = s.resolve name ∧ (s.resolve name = none → σ name = name) := by
  have same := alike.names name old
  cases named : s.names.get? name with
  | some type =>
      rw [named] at same
      rw [resolve_named named,resolve_named same]
      exact ⟨rfl,nofun⟩
  | none =>
      have still : σ name = name := by
        by_contra moved
        have known := (alike.moved name moved).2
        rw [named] at known
        cases known
      rw [still] at same ⊢
      exact ⟨resolve_unnamed alike.dataset (alike.datasets name old) named (same.trans named),
        fun _ => rfl⟩

theorem declare (alike : Alike σ new s other) (old : name ∉ new) (type : DataType) :
    Alike (Function.update σ name name) new (s.declare name type) (other.declare name type) := by
  refine ⟨alike.dataset,alike.datasets,fun another free => ?_,fun another moved => ?_⟩
  · simp only [Scope.declare,Table.get_insert]
    by_cases own : another = name
    · simp [own]
    · have apart : σ another ≠ name := by
        intro taken
        by_cases still : σ another = another
        · exact own (still.symm.trans taken)
        · exact old (taken ▸ (alike.moved another still).1)
      rw [Function.update_of_ne own,if_neg apart,if_neg own,alike.names another free]
  · have own : another ≠ name := by
      rintro rfl
      exact moved (Function.update_self _ _ _)
    rw [Function.update_of_ne own] at moved ⊢
    rw [Scope.declare,Table.get_insert,if_neg own]
    exact alike.moved another moved

theorem infer (alike : Alike σ new s other) {e : Expr}
    (outside : ∀ name ∈ e.namesOutside, name ∉ new)
    (inside : ∀ name ∈ e.namesInside, name ∉ new ∧
      (σ name ≠ name → other.resolve name = s.resolve name)) :
    other.infer (e.renamed σ) = s.infer e := by
  refine congrArg Compiled.ofTyping (Expr.inferType_renamed (fun name listed =>
    alike.resolves (outside name listed)) fun name listed => ?_)
  obtain ⟨old,kept⟩ := inside name listed
  by_cases still : σ name = name
  · have same := (alike.resolves old).1
    rwa [still] at same
  · exact kept still

end Alike

end Scope

end OlapQuery
