import OlapQuery.Proofs.Definitions
import OlapQuery.Proofs.Outermost
import OlapQuery.Proofs.Statements
import OlapQuery.Proofs.Tables

-- The names that the bounds of time are reported under. The client moves one bound after the
-- other to its output name, on the row that it got, so that a bound can be moved over one that
-- has not been moved yet.

namespace OlapQuery

open Compiled

namespace PostProcess

theorem rename_get (row : Row) (source target name : String) :
    (rename row (source,target)).get? name = match row.get? source with
      | some value =>
          if name = target then some value else if name = source then none else row.get? name
      | none => row.get? name := by
  unfold rename
  cases row.get? source with
  | none => rfl
  | some value =>
      dsimp only
      rw [Table.get_insert,Table.get_erase]

theorem rename_away (row : Row) {source target name : String} (other : name ≠ target) :
    (rename row (source,target)).get? name = if name = source then none else row.get? name := by
  rw [rename_get]
  cases found : row.get? source with
  | some value => exact if_neg other
  | none =>
      by_cases same : name = source
      · rw [if_pos same,same]
        exact found
      · exact (if_neg same).symm

theorem renames_untargeted {renames : List (String × String)} {name : String}
    (untargeted : name ∉ renames.map (·.2)) (row : Row) :
    (renames.foldl rename row).get? name
      = if name ∈ renames.map (·.1) then none else row.get? name := by
  induction renames generalizing row with
  | nil => simp
  | cons entry rest ih =>
      obtain ⟨source,target⟩ := entry
      simp only [List.map_cons,List.mem_cons,not_or] at untargeted ⊢
      rw [List.foldl_cons,ih untargeted.2,rename_away row untargeted.1]
      by_cases later : name ∈ rest.map (·.1)
      · rw [if_pos later,if_pos (Or.inr later)]
      · by_cases same : name = source
        · rw [if_neg later,if_pos same,if_pos (Or.inl same)]
        · rw [if_neg later,if_neg same,if_neg (not_or.mpr ⟨same,later⟩)]

-- Columns that are moved one after the other are all there just when none is moved over one that
-- is still to be moved,
theorem renames_apart {renames : List (String × String)} {row : Row}
    (targets : (renames.map (·.2)).Nodup)
    (there : ∀ entry ∈ renames, ((renames.foldl rename row).get? entry.2).isSome) :
    renames.Pairwise (fun early late => early.2 ≠ late.1) := by
  induction renames generalizing row with
  | nil => exact .nil
  | cons entry rest ih =>
      obtain ⟨free,once⟩ := List.nodup_cons.mp targets
      obtain ⟨first,later⟩ := List.forall_mem_cons.mp there
      refine List.pairwise_cons.mpr ⟨fun late listed same => ?_,ih once later⟩
      have hit : entry.2 ∈ rest.map (·.1) := List.mem_map.mpr ⟨late,listed,same.symm⟩
      rw [List.foldl_cons,renames_untargeted free,if_pos hit] at first
      cases first

-- and each holds what it was moved from.
theorem renames_arrive {renames : List (String × String)} {row : Row}
    (sources : (renames.map (·.1)).Nodup) (targets : (renames.map (·.2)).Nodup)
    (present : ∀ entry ∈ renames, (row.get? entry.1).isSome)
    (apart : renames.Pairwise (fun early late => early.2 ≠ late.1)) :
    ∀ entry ∈ renames, (renames.foldl rename row).get? entry.2 = row.get? entry.1 := by
  induction renames generalizing row with
  | nil => nofun
  | cons entry rest ih =>
      obtain ⟨source,target⟩ := entry
      obtain ⟨other,distinct⟩ := List.nodup_cons.mp sources
      obtain ⟨free,once⟩ := List.nodup_cons.mp targets
      obtain ⟨here,others⟩ := List.forall_mem_cons.mp present
      obtain ⟨missed,ordered⟩ := List.pairwise_cons.mp apart
      obtain ⟨value,found⟩ := Option.isSome_iff_exists.mp here
      have unhit : target ∉ rest.map (·.1) := by
        intro hit
        obtain ⟨late,listed,same⟩ := List.mem_map.mp hit
        exact missed late listed same.symm
      have kept : ∀ late ∈ rest,
          (rename row (source,target)).get? late.1 = row.get? late.1 := by
        intro late listed
        rw [rename_away row (missed late listed).symm]
        exact if_neg fun same => other (List.mem_map.mpr ⟨late,listed,same⟩)
      rw [List.forall_mem_cons,List.foldl_cons,renames_untargeted free,if_neg unhit,rename_get,
        found]
      refine ⟨if_pos rfl,fun late listed => ?_⟩
      have still : ∀ late ∈ rest, ((rename row (source,target)).get? late.1).isSome :=
        fun late listed => kept late listed ▸ others late listed
      exact (ih distinct once still ordered late listed).trans (kept late listed)

theorem clean_get (p : PostProcess) (row : Row) (name : String) :
    (p.clean row).get? name = if isSynthetic name then none
      else ((p.renames.foldl rename row).get? name).map fun value =>
        ((p.types.get? name).map (readAs · value)).getD value := by
  have read : p.clean row
      = (((p.renames.foldl rename row).filter fun column => !isSynthetic column.1).map fun column =>
          (column.1,((p.types.get? column.1).map (readAs · column.2)).getD column.2)) := by
    unfold clean
    refine List.map_congr_left fun column _ => ?_
    cases p.types.get? column.1 <;> rfl
  rw [read]
  refine (Table.lookup_read (fun name value => ((p.types.get? name).map (readAs · value)).getD value)
    _ name).trans ?_
  rw [Table.lookup_kept fun name => !isSynthetic name]
  cases isSynthetic name <;> rfl

end PostProcess

namespace Druid.Planner

-- A field that an apply asks for, with the name that it is reported under.
def Asks (dataset : Dataset) (a : Apply) (entry : String × String) : Prop :=
  boundaryField? dataset a.expression = some entry.1 ∧ a.name = entry.2

theorem boundaryRenames_asked {dataset : Dataset} {applies : List Apply}
    {start renames : Table String} (ordered : start.Ordered)
    (ran : boundaryRenames? dataset applies start = some renames) :
    renames.Ordered ∧ ∃ asked, renames.Perm (start ++ asked) ∧
      List.Forall₂ (Asks dataset) applies asked := by
  induction applies generalizing start with
  | nil =>
      cases ran
      exact ⟨ordered,[],by simp,.nil⟩
  | cons a rest ih =>
      unfold boundaryRenames? at ran
      split at ran
      · cases ran
      · rename_i field asks
        split at ran
        · cases ran
        · rename_i fresh
          obtain ⟨still,asked,same,each⟩ := ih (Table.insert_ordered _ _ ordered) ran
          have unknown : field ∉ start.names := by
            intro known
            obtain ⟨entry,listed,rfl⟩ := List.mem_map.mp known
            have found := Table.mem_lookup ordered.distinct listed
            exact fresh (by rw [Table.contains,Table.get?,found]; rfl)
          refine ⟨still,(field,a.name) :: asked,?_,.cons ⟨asks,rfl⟩ each⟩
          exact (same.trans ((Table.insert_perm unknown).append_right asked)).trans
            List.perm_middle.symm

theorem asked_names {dataset : Dataset} {applies : List Apply} {asked : List (String × String)}
    (each : List.Forall₂ (Asks dataset) applies asked) :
    asked.map (·.2) = applies.map (·.name) := by
  induction each with
  | nil => rfl
  | cons first rest ih => rw [List.map_cons,List.map_cons,ih,first.2]

theorem boundaryField_known {dataset : Dataset} {e : Expr} {field : String}
    (asks : boundaryField? dataset e = some field) : field = "maxTime" ∨ field = "minTime" := by
  unfold boundaryField? at asks
  split at asks
  · split at asks
    · exact .inl (Option.some.inj asks).symm
    · cases asks
  · split at asks
    · exact .inr (Option.some.inj asks).symm
    · cases asks
  · cases asks

end Druid.Planner

theorem applies_distinct {dataset : Dataset} {e : Expr} {folded : FoldedQuery}
    (ran : fold dataset e = .ok folded) : (folded.applies.map (·.name)).Nodup := by
  cases chain : e.isDatasetOp with
  | true =>
      obtain ⟨common,definitions,settled,-⟩ := Fold.fold_defined ran chain
      rw [settled]
      exact settle_distinct definitions
  | false =>
      rcases fold_cases ran with ⟨-,value⟩ | ⟨other,-⟩ | ⟨other,-⟩
      · obtain ⟨resolved,expanded,-,rfl⟩ := Fold.value_parts value
        exact List.nodup_singleton _
      · rw [chain] at other; cases other
      · rw [chain] at other; cases other

theorem planLevel_bounds {dataset : Dataset} {e : Expr} {level : Level} {q : Druid.TimeBoundary}
    (planned : planLevel dataset e = .ok level)
    (bounds : level.query = some (.druid (.timeBoundary q))) :
    ∃ folded renames, fold dataset e = .ok folded ∧
      Druid.Planner.boundaryRenames? dataset folded.applies [] = some renames ∧
      level.post = { envelope := .timeBoundary,renames,types := folded.types
                     splitKeys := folded.splitKeys.map (·.1) } := by
  obtain ⟨folded,ran,planned⟩ := bind_ok.mp planned
  dsimp only at planned
  split at planned
  · obtain ⟨⟨query,post⟩,chosen,planned⟩ := bind_ok.mp planned
    cases pure_ok.mp planned
    cases bounds
    unfold planQuery at chosen
    split at chosen
    · obtain ⟨plan,made,chosen⟩ := bind_ok.mp chosen
      obtain ⟨p,kept,shape⟩ := bind_ok.mp made
      obtain ⟨query,rfl⟩ := Prod.mk.inj (pure_ok.mp chosen)
      obtain ⟨rfl,rfl,-⟩ := Druid.Planner.make_parts kept
      have asks := NativeQuery.druid.inj query
      cases Druid.Planner.plan_planned shape with
      | selected _ other => cases other.symm.trans asks
      | bucketed _ other => cases other.symm.trans asks
      | ranked _ other => cases other.symm.trans asks
      | grouped _ other => cases other.symm.trans asks
      | totalled _ _ other => cases other.symm.trans asks
      | bounded _ _ found =>
          obtain ⟨_,renames,named,rfl⟩ := Druid.Planner.timeBoundary_made found
          exact ⟨_,renames,ran,named,rfl⟩
    · obtain ⟨plan,-,chosen⟩ := bind_ok.mp chosen
      cases pure_ok.mp chosen
  · cases pure_ok.mp planned
    cases bounds

-- A part of an answer that holds both bounds, with the bounds.
structure Bounds (item result : Row) : Prop where
  held : item.get? "result" = some (.obj result)
  latest : (result.get? "maxTime").isSome
  earliest : (result.get? "minTime").isSome

namespace PostProcess

-- Every bound is found under the name that was planned for it.
def Named (p : PostProcess) (result row : Row) : Prop :=
  ∀ entry ∈ p.renames, row.get? entry.2 = result.get? entry.1

-- No bound is moved over the other, dropped for its name, or read as something else.
structure Settled (p : PostProcess) (result : Row) : Prop where
  apart : p.renames.get? "maxTime" = some "minTime" → p.renames.contains "minTime" = false
  plain : ∀ entry ∈ p.renames, isSynthetic entry.2 = false
  read : ∀ entry ∈ p.renames, ∀ type value, p.types.get? entry.2 = some type →
    result.get? entry.1 = some value → readAs type value = value

section
variable {p : PostProcess} {result : Row} (ordered : p.renames.Ordered)
  (known : ∀ entry ∈ p.renames, entry.1 = "maxTime" ∨ entry.1 = "minTime")
include ordered known

theorem bounds_cases : p.renames = [] ∨ (∃ entry, p.renames = [entry]) ∨
    ∃ latest earliest, p.renames = [("maxTime",latest),("minTime",earliest)] := by
  cases shape : p.renames with
  | nil => exact .inl rfl
  | cons first rest =>
      cases rest with
      | nil => exact .inr (.inl ⟨first,rfl⟩)
      | cons second rest =>
          rw [shape] at ordered known
          obtain ⟨early,later⟩ := List.pairwise_cons.mp ordered
          have order : first.1 = "maxTime" ∧ second.1 = "minTime" := by
            have next := early second List.mem_cons_self
            rcases known first (by simp) with one | one <;>
              rcases known second (by simp) with other | other <;> rw [one,other] at next ⊢
            · exact absurd next (by decide)
            · exact ⟨rfl,rfl⟩
            · exact absurd next (by decide)
            · exact absurd next (by decide)
          cases rest with
          | nil => exact .inr (.inr ⟨first.2,second.2,by rw [← order.1,← order.2]⟩)
          | cons third rest =>
              have next := (List.pairwise_cons.mp later).1 third List.mem_cons_self
              rw [order.2] at next
              rcases known third (by simp) with is | is <;> rw [is] at next <;>
                exact absurd next (by decide)

theorem bounds_apart : p.renames.Pairwise (fun early late => early.2 ≠ late.1) ↔
    (p.renames.get? "maxTime" = some "minTime" → p.renames.contains "minTime" = false) := by
  rcases bounds_cases ordered known with shape | ⟨entry,shape⟩ | ⟨latest,earliest,shape⟩
  · simp [shape,Table.get?]
  · obtain ⟨field,name⟩ := entry
    rw [shape]
    by_cases latest : field = "maxTime"
    · simp [latest,Table.contains,Table.get?]
    · have other : ("maxTime" == field) = false := by simpa using Ne.symm latest
      simp [other,Table.get?,List.lookup_cons]
  · rw [shape]
    simp [Table.contains,Table.get?]

variable (targets : (p.renames.map (·.2)).Nodup)
  (present : ∀ entry ∈ p.renames, (result.get? entry.1).isSome)
include targets present

theorem named_iff : p.Named result (p.clean result) ↔ p.Settled result := by
  have arrive (apart : p.renames.get? "maxTime" = some "minTime" →
      p.renames.contains "minTime" = false) :=
    renames_arrive ordered.distinct targets present ((bounds_apart ordered known).mpr apart)
  constructor
  · intro named
    have cleaned : ∀ entry ∈ p.renames, isSynthetic entry.2 = false ∧
        ((p.renames.foldl rename result).get? entry.2).isSome := by
      intro entry listed
      have there := present entry listed
      rw [← named entry listed,clean_get] at there
      split at there
      · cases there
      · rename_i plain
        exact ⟨by simpa using plain,by simpa using there⟩
    have apart := (bounds_apart ordered known).mp
      (renames_apart targets fun entry listed => (cleaned entry listed).2)
    refine ⟨apart,fun entry listed => (cleaned entry listed).1,?_⟩
    intro entry listed type value typed held
    have found := named entry listed
    rw [clean_get,(cleaned entry listed).1,arrive apart entry listed,held,typed] at found
    simpa using found
  · intro settled entry listed
    obtain ⟨value,held⟩ := Option.isSome_iff_exists.mp (present entry listed)
    rw [clean_get,settled.plain entry listed,arrive settled.apart entry listed,held]
    cases typed : p.types.get? entry.2 with
    | none => rfl
    | some type => exact congrArg some (settled.read entry listed type value typed held)

end

end PostProcess

theorem boundary_names_iff {dataset : Dataset} {e : Expr} {level : Level} {q : Druid.TimeBoundary}
    (planned : planLevel dataset e = .ok level)
    (bounds : level.query = some (.druid (.timeBoundary q))) :
    (∃ folded, fold dataset e = .ok folded ∧ ∀ a ∈ folded.applies, ∃ field,
      Druid.Planner.boundaryField? dataset a.expression = some field ∧
        level.post.renames.get? field = some a.name) ∧
    ∀ answer results, List.Forall₂ Bounds answer results →
      ∃ rows, level.post.apply answer = rows ∧
        List.Forall₂ (fun result row => level.post.Named result row ↔ level.post.Settled result)
          results rows := by
  obtain ⟨folded,renames,ran,named,post⟩ := planLevel_bounds planned bounds
  obtain ⟨ordered,asked,same,each⟩ := Druid.Planner.boundaryRenames_asked List.Pairwise.nil named
  rw [List.nil_append] at same
  have known : ∀ entry ∈ renames, entry.1 = "maxTime" ∨ entry.1 = "minTime" := by
    intro entry listed
    obtain ⟨a,-,asks,-⟩ := Expr.related_source each (same.mem_iff.mp listed)
    exact Druid.Planner.boundaryField_known asks
  have targets : (renames.map (·.2)).Nodup := by
    rw [(same.map (·.2)).nodup_iff,Druid.Planner.asked_names each]
    exact applies_distinct ran
  have renamed : level.post.renames = renames := by rw [post]
  constructor
  · refine ⟨folded,ran,fun a listed => ?_⟩
    obtain ⟨⟨field,name⟩,member,asks,rfl⟩ := Expr.related_source each.flip listed
    rw [renamed]
    exact ⟨field,asks,Table.mem_lookup ordered.distinct (same.mem_iff.mpr member)⟩
  · intro answer results held
    have unwrapped : answer.flatMap level.post.unwrap = results := by
      rw [post]
      clear post
      induction held with
      | nil => rfl
      | @cons item result answer results first rest ih =>
          rw [List.flatMap_cons,ih]
          simp [PostProcess.unwrap,first.held,Json.obj?,PostProcess.stamped]
    have rows : level.post.apply answer = results.map level.post.clean := by
      rw [← unwrapped,post]
      rfl
    refine ⟨_,rows,?_⟩
    rw [List.forall₂_map_right_iff,List.forall₂_same]
    intro result listed
    obtain ⟨item,-,held⟩ := Expr.related_source held listed
    rw [← renamed] at ordered known targets
    refine PostProcess.named_iff ordered known targets fun entry listed => ?_
    rcases known entry listed with latest | earliest
    · rw [latest]
      exact held.latest
    · rw [earliest]
      exact held.earliest

namespace Logbook

def logs : Dataset :=
  { engine := .druid,source := "logs",timeAttribute := some "time"
    attributes := [{ name := "time",type := .time }] }

def span (first last : String) : Expr :=
  .apply (.apply .ply first (.min (.ref "logs") (.ref "time"))) last
    (.max (.ref "logs") (.ref "time"))

def days : Row := [("maxTime",.str "2015-09-13"),("minTime",.str "2015-09-12")]

def answer : List Row := [[("result",.obj days)]]

def Reports (e : Expr) (renames : Table String) (row : Row) : Prop :=
  ∃ level q, planLevel logs e = .ok level ∧ level.query = some (.druid (.timeBoundary q)) ∧
    level.post.renames = renames ∧ level.post.apply answer = [row]

-- A name that has been moved from can be moved to.
theorem first_day_reported : ∃ row,
    Reports (span "maxTime" "Last") [("maxTime","Last"),("minTime","maxTime")] row ∧
      row.get? "Last" = days.get? "maxTime" ∧ row.get? "maxTime" = days.get? "minTime" := by
  obtain ⟨-,reported⟩ := @boundary_names_iff logs (span "maxTime" "Last") _ _ rfl rfl
  obtain ⟨rows,applied,each⟩ := reported answer [days] (.cons ⟨rfl,rfl,rfl⟩ .nil)
  cases each with
  | @cons _ row _ _ exactly rest =>
      cases rest
      have named := exactly.mpr ⟨by decide,by decide,?_⟩
      · exact ⟨row,⟨_,_,rfl,rfl,rfl,applied⟩,named ("maxTime","Last") (by decide),
          named ("minTime","maxTime") (by decide)⟩
      · intro entry listed type value typed held
        change entry ∈ [("maxTime","Last"),("minTime","maxTime")] at listed
        simp only [List.mem_cons,List.not_mem_nil,or_false] at listed
        rcases listed with rfl | rfl <;> cases typed <;> cases held <;> rfl

-- The last day goes over the first one, and on under the other name.
theorem first_day_lost :
    Reports (span "maxTime" "minTime") [("maxTime","minTime"),("minTime","maxTime")]
      [("maxTime",.str "2015-09-13")] :=
  ⟨_,_,rfl,rfl,rfl,rfl⟩

end Logbook

end OlapQuery
