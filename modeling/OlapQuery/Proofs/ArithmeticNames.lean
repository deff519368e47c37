import OlapQuery.Proofs.Collection
import OlapQuery.Proofs.Tables

-- The names that the arithmetic over aggregates is left with. Derived applies are written out in
-- those after them, so what is named in the end is known exactly if every name in a derived apply
-- is known, or is that of a derived apply before it.

namespace OlapQuery

theorem mem_sortedNames (names : List String) (name : String) :
    name ∈ sortedNames names ↔ name ∈ names := by
  rw [sortedNames,Table.names_ofList]
  simp [Function.comp_def]

theorem sortedNames_congr {names others : List String}
    (same : ∀ name, name ∈ names ↔ name ∈ others) : sortedNames names = sortedNames others := by
  have ordered (names : List String) : (sortedNames names).Pairwise (· < ·) :=
    List.pairwise_map.mpr (Table.ofList_ordered _)
  have distinct (names : List String) : (sortedNames names).Nodup :=
    (Table.ofList_ordered _).distinct
  have alike : (sortedNames names).Perm (sortedNames others) :=
    (List.perm_ext_iff_of_nodup (distinct _) (distinct _)).mpr fun name => by
      rw [mem_sortedNames,mem_sortedNames,same]
  exact alike.eq_of_pairwise (fun _ _ _ _ before behind => (String.lt_asymm before behind).elim)
    (ordered _) (ordered _)

namespace Expr

theorem mem_references (e : Expr) (name : String) : name ∈ e.references ↔ Mentions name e := by
  rw [references,mem_sortedNames,List.mem_filterMap]
  constructor
  · rintro ⟨node,member,named⟩
    cases node <;> cases named
    exact member
  · exact fun member => ⟨_,member,rfl⟩

theorem mentions_outside {e : Expr} (plain : e.aggregates = []) (name : String) :
    Mentions name e ↔ name ∈ e.namesOutside := by
  induction e using Expr.structural with
  | literal v => simp [namesOutside]
  | ref other => simp [namesOutside]
  | ply => simp [namesOutside]
  | unary op e ih =>
      cases outermost : op.isAggregate with
      | true => simp [aggregates,outermost] at plain
      | false =>
          simp only [aggregates,outermost,Bool.false_eq_true,if_false] at plain
          simp [namesOutside,outermost,ih plain]
  | binary op e x left right =>
      cases outermost : op.isAggregate with
      | true => simp [aggregates,outermost] at plain
      | false =>
          simp only [aggregates,outermost,Bool.false_eq_true,if_false,List.append_eq_nil_iff] at plain
          simp [namesOutside,outermost,left plain.1,right plain.2]
  | junction op es ih =>
      simp only [aggregates,aggregatesAll_flatMap,List.flatMap_eq_nil_iff] at plain
      simp only [mentions_junction,namesOutside,namesOutsideAll_flatMap,List.mem_flatMap]
      exact exists_congr fun e => and_congr_right fun member => ih e member (plain e member)
  | split e keys dataName ih others =>
      simp only [aggregates,aggregatesKeys_flatMap,List.append_eq_nil_iff,
        List.flatMap_eq_nil_iff] at plain
      simp only [mentions_split,namesOutside,namesOutsideKeys_flatMap,List.mem_append,
        List.mem_flatMap,ih plain.1]
      exact or_congr_right (exists_congr fun key => and_congr_right fun member =>
        others key member (plain.2 key member))

theorem namesOutside_substitute (name : String) (value e : Expr) :
    (substitute name value e).namesOutside = (substituteOutside name value e).namesOutside := by
  induction e using Expr.structural with
  | literal v => rfl
  | ref other => rfl
  | ply => rfl
  | unary op e ih =>
      cases outermost : op.isAggregate <;>
        simp [substitute,substituteOutside,namesOutside,outermost,ih]
  | binary op e x left right =>
      cases outermost : op.isAggregate <;>
        simp [substitute,substituteOutside,namesOutside,outermost,left,right]
  | junction op es ih =>
      simp only [substitute,substituteOutside,substituteAll_map,substituteOutsideAll_map,namesOutside,
        namesOutsideAll_flatMap,List.flatMap_map]
      exact List.flatMap_congr ih
  | split e keys dataName ih others =>
      simp only [substitute,substituteOutside,substituteKeys_map,substituteOutsideKeys_map,
        namesOutside,namesOutsideKeys_flatMap,List.flatMap_map,ih]
      rw [List.flatMap_congr others]

end Expr

open OlapQuery.Expr

theorem places_cons {holds : List α → α → Prop} {a : α} {rest : List α} :
    (∀ before b after, a :: rest = before ++ b :: after → holds before b) ↔
      holds [] a ∧ ∀ before b after, rest = before ++ b :: after → holds (a :: before) b := by
  constructor
  · intro each
    exact ⟨each [] a rest rfl,fun before b after place => each (a :: before) b after (by simp [place])⟩
  · rintro ⟨first,later⟩ before b after place
    cases before with
    | nil => cases place; exact first
    | cons c before =>
        obtain ⟨rfl,below⟩ := List.cons.inj place
        exact later before b after below

namespace AggregateSet

-- All names in the arithmetic are known.
def Settled (known : String → Prop) (posts : List PostAggregate) : Prop :=
  ∀ post ∈ posts, ∀ name ∈ post.expression.namesOutside, known name

theorem inlinePosts_names {known : String → Prop} {posts : List PostAggregate}
    (settled : Settled known posts) (e : Expr) :
    (∀ name ∈ (inlinePosts posts e).namesOutside, known name) ↔
      ∀ name ∈ e.namesOutside, known name ∨ name ∈ posts.map (·.name) := by
  induction posts generalizing e with
  | nil => simp [inlinePosts]
  | cons post rest ih =>
      obtain ⟨own,others⟩ := List.forall_mem_cons.mp settled
      have step : inlinePosts (post :: rest) e
        = inlinePosts rest (substitute post.name post.expression e) := rfl
      rw [step,ih others,namesOutside_substitute,substituteOutside_replace]
      constructor
      · intro each name outside
        by_cases same : name = post.name
        · exact .inr (by simp [same])
        · refine (each name ?_).imp_right (List.mem_cons_of_mem _)
          exact (namesOutside_replaceOutside _ _ _).mpr ⟨name,outside,by simp [same,namesOutside]⟩
      · intro each name outside
        obtain ⟨other,member,inside⟩ := (namesOutside_replaceOutside _ _ _).mp outside
        by_cases same : other = post.name
        · rw [if_pos (by simp [same])] at inside
          exact .inl (own name inside)
        · rw [if_neg (by simp [same])] at inside
          cases List.mem_singleton.mp inside
          refine (each name member).imp_right fun listed => ?_
          exact (List.mem_cons.mp listed).resolve_left same

-- One derived apply after the other: the arithmetic so far stays, and each apply adds its own.
theorem derive_run {named made more : List NamedAggregate} {posts later : List PostAggregate}
    {rest : List Apply} (ran : rest.foldlM (derive named) posts made = (later,more)) :
    Grows named made more ∧ ∃ own, later = posts ++ own ∧ own.map (·.name) = rest.map (·.name) ∧
      ∀ post ∈ own, post.expression.aggregates = [] := by
  induction rest generalizing posts made with
  | nil => cases ran; exact ⟨⟨List.prefix_rfl,id⟩,[],by simp⟩
  | cons a rest ih =>
      obtain ⟨next,further,first,ran⟩ := (Outcomes.state (List NamedAggregate)).of_bind ran
      obtain ⟨e,rfl,grows,taken⟩ := derive_parts first
      obtain ⟨grown,own,rfl,names,plain⟩ := ih ran
      refine ⟨⟨grows.1.trans grown.1,grown.2 ∘ grows.2⟩,{ name := a.name,expression := e } :: own,
        by simp,by simp [names],?_⟩
      exact List.forall_mem_cons.mpr ⟨(stands_names taken).1,plain⟩

theorem post_settled {known : String → Prop} {aggregates : List NamedAggregate}
    {posts : List PostAggregate} {a : Apply} {e : Expr} (settled : Settled known posts)
    (aggregated : ∀ k ∈ aggregates, known k.name)
    (taken : UpTo (StandsFor aggregates) (inlinePosts posts a.expression) e) :
    (∀ name ∈ e.namesOutside, known name) ↔
      ∀ name ∈ a.expression.namesOutside, known name ∨ name ∈ posts.map (·.name) := by
  obtain ⟨-,kept,brought⟩ := stands_names taken
  rw [← inlinePosts_names settled]
  refine ⟨fun each name inside => each name (kept name inside),fun each name outside => ?_⟩
  rcases brought name outside with inside | listed
  · exact each name inside
  · obtain ⟨k,member,rfl⟩ := List.mem_map.mp listed
    exact aggregated k member

theorem run_settled {known : String → Prop} {named made more : List NamedAggregate}
    {posts later : List PostAggregate} {rest : List Apply}
    (ran : rest.foldlM (derive named) posts made = (later,more))
    (aggregated : ∀ k ∈ named ++ more, known k.name) (settled : Settled known posts) :
    Settled known later ↔ ∀ before a after, rest = before ++ a :: after →
      ∀ name ∈ a.expression.namesOutside, known name ∨
        name ∈ posts.map (·.name) ++ before.map (·.name) := by
  induction rest generalizing posts made with
  | nil => cases ran; simpa using settled
  | cons a rest ih =>
      obtain ⟨next,further,first,ran⟩ := (Outcomes.state (List NamedAggregate)).of_bind ran
      obtain ⟨e,rfl,-,taken⟩ := derive_parts first
      obtain ⟨grown,own,rfl,-,-⟩ := derive_run ran
      have early : ∀ k ∈ named ++ further, known k.name := fun k member =>
        aggregated k (List.mem_append.mpr ((List.mem_append.mp member).imp_right (grown.1.subset ·)))
      rw [places_cons]
      simp only [List.map_nil,List.append_nil,← post_settled settled early taken]
      by_cases whole : ∀ name ∈ e.namesOutside, known name
      · have next : Settled known (posts ++ [{ name := a.name,expression := e }]) :=
          List.forall_mem_append.mpr ⟨settled,List.forall_mem_singleton.mpr whole⟩
        rw [ih ran next]
        simpa using fun _ => whole
      -- One name that is not known is enough: the arithmetic stays, whatever comes after it.
      · refine iff_of_false (fun all => whole ?_) (fun each => whole each.1)
        exact all { name := a.name,expression := e } (by simp)

theorem collect_aggregates (applies : List Apply) (name : String) :
    name ∈ (collect applies).aggregates.map (·.name) ↔
      (∃ a ∈ applies, a.expression.isAggregate = true ∧ a.name = name) ∨
      ∃ k ∈ (collect applies).aggregates, k.synthetic = true ∧ k.name = name := by
  obtain ⟨posts,made,ran,whole⟩ := collect_run applies
  have numbered := (derive_run ran).1.2 (derived_start applies).numbered
  constructor
  · intro listed
    obtain ⟨k,member,rfl⟩ := List.mem_map.mp listed
    have place := member
    rw [whole] at place
    rcases List.mem_append.mp place with named | new
    · obtain ⟨a,found,aggregate,rfl⟩ := bare_source named
      exact .inl ⟨a,found,aggregate,rfl⟩
    · exact .inr ⟨k,member,numbered.made_up k new,rfl⟩
  · rintro (⟨a,found,aggregate,rfl⟩ | ⟨k,member,-,rfl⟩)
    · exact List.mem_map_of_mem (collect_bare found aggregate)
    · exact List.mem_map_of_mem member

theorem collect_arithmetic (applies : List Apply) :
    (collect applies).postAggregates.map (·.name) = (derivedOrder applies).map (·.name) ∧
      ∀ post ∈ (collect applies).postAggregates, post.expression.aggregates = [] := by
  obtain ⟨posts,made,ran,whole⟩ := collect_run applies
  obtain ⟨-,own,rfl,names,plain⟩ := derive_run ran
  rw [whole]
  exact ⟨names,plain⟩

theorem collect_settled {applies : List Apply} {known : String → Prop}
    (aggregated : ∀ k ∈ (collect applies).aggregates, known k.name) :
    Settled known (collect applies).postAggregates ↔
      ∀ before a after, derivedOrder applies = before ++ a :: after →
        ∀ name ∈ a.expression.namesOutside, known name ∨ name ∈ before.map (·.name) := by
  obtain ⟨posts,made,ran,whole⟩ := collect_run applies
  rw [whole] at aggregated ⊢
  simpa using run_settled ran aggregated (fun post member => nomatch member)

end AggregateSet

end OlapQuery
