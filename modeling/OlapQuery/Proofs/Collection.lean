import Mathlib.Data.List.Nodup
import OlapQuery.Proofs.Sameness

-- The aggregates that an engine computes for a list of applies, and the arithmetic over them.
-- Putting the aggregates back into the arithmetic gives each apply with the applies that it
-- refers to written out in it.

namespace OlapQuery

namespace Expr

theorem containsAggregate_exact (e : Expr) : e.containsAggregate = false ↔ e.aggregates = [] := by
  refine ⟨fun plain => List.eq_nil_iff_forall_not_mem.mpr fun a => aggregates_plain plain,?_⟩
  induction e using Expr.structural with
  | literal v => intro; rfl
  | ref name => intro; rfl
  | ply => intro; rfl
  | unary op e ih =>
      intro none
      cases outermost : op.isAggregate with
      | true => simp [aggregates,outermost] at none
      | false =>
          have inside := ih (by simpa [aggregates,outermost] using none)
          simpa [containsAggregate,nodes,outermost] using inside
  | binary op e x left right =>
      intro none
      cases outermost : op.isAggregate with
      | true => simp [aggregates,outermost] at none
      | false =>
          simp only [aggregates,outermost,Bool.false_eq_true,if_false,List.append_eq_nil_iff] at none
          have operand := left none.1
          have expression := right none.2
          simp only [containsAggregate] at operand expression
          simp [containsAggregate,nodes,outermost,operand,expression]
  | junction op es ih =>
      intro none
      have each := List.flatMap_eq_nil_iff.mp (by simpa [aggregates] using none)
      have inside := fun e member => ih e member (each e member)
      simpa [containsAggregate,nodes,List.any_flatMap] using inside
  | split e keys dataName ih others =>
      intro none
      simp only [aggregates,aggregatesKeys_flatMap,List.append_eq_nil_iff,
        List.flatMap_eq_nil_iff] at none
      have operand := ih none.1
      have inside := fun key member => others key member (none.2 key member)
      simp only [containsAggregate] at operand inside
      simp only [containsAggregate,nodes,nodesKeys_flatMap,List.any_cons,List.any_append,
        List.any_flatMap,isAggregate_split,operand,Bool.false_or,List.any_eq_false]
      exact fun key member => by simp [inside key member]

-- Names are written out, aggregates are taken out of what results, and what took their place is
-- put back: the same comes out as when everything is written out at once.
theorem UpTo.restored {related alike : Expr → Expr → Prop} {partly fully back : String → Option Expr}
    (returns : ∀ a b, related a b → alike a (b.replaceOutside back)) {e e' : Expr}
    (names : ∀ name ∈ e.namesOutside, ((partly name).getD (.ref name)).aggregates = [] ∧
      UpTo alike ((fully name).getD (.ref name))
        (((partly name).getD (.ref name)).replaceOutside back))
    (taken : UpTo related (e.replaceOutside partly) e') :
    UpTo alike (e.replaceOutside fully) (e'.replaceOutside back) := by
  induction e using Expr.structural generalizing e' with
  | literal v =>
      cases taken with
      | aggregate outermost holds => cases outermost
      | literal => exact .literal
  | ply =>
      cases taken with
      | aggregate outermost holds => cases outermost
      | ply => exact .ply
  | ref name =>
      obtain ⟨plain,upTo⟩ := names name (by simp [namesOutside])
      rw [taken.plain plain]
      exact upTo
  | unary op e ih =>
      cases outermost : op.isAggregate with
      | true =>
          have whole : (Expr.unary op e).isAggregate = true := outermost
          rw [replaceOutside_aggregate _ whole] at taken ⊢
          cases taken with
          | aggregate _ holds => exact .aggregate whole (returns _ _ holds)
          | unary plain operand => rw [outermost] at plain; cases plain
      | false =>
          simp only [replaceOutside,namesOutside,outermost,Bool.false_eq_true,if_false]
            at taken names ⊢
          cases taken with
          | aggregate whole holds => simp [outermost] at whole
          | @unary _ _ f plain operand =>
              simp only [replaceOutside,outermost,Bool.false_eq_true,if_false]
              exact .unary outermost (ih names operand)
  | binary op e x left right =>
      cases outermost : op.isAggregate with
      | true =>
          have whole : (Expr.binary op e x).isAggregate = true := outermost
          rw [replaceOutside_aggregate _ whole] at taken ⊢
          cases taken with
          | aggregate _ holds => exact .aggregate whole (returns _ _ holds)
          | binary plain operand expression => rw [outermost] at plain; cases plain
      | false =>
          simp only [replaceOutside,namesOutside,outermost,Bool.false_eq_true,if_false,
            List.forall_mem_append] at taken names ⊢
          cases taken with
          | aggregate whole holds => simp [outermost] at whole
          | binary plain operand expression =>
              simp only [replaceOutside,outermost,Bool.false_eq_true,if_false]
              exact .binary outermost (left names.1 operand) (right names.2 expression)
  | junction op es ih =>
      simp only [replaceOutside,replaceOutsideAll_map,namesOutside,namesOutsideAll_flatMap,
        List.forall_mem_flatMap] at taken names ⊢
      cases taken with
      | aggregate whole holds => cases whole
      | junction operands =>
          rw [List.forall₂_map_left_iff] at operands
          simp only [replaceOutside,replaceOutsideAll_map]
          refine .junction (List.forall₂_map_left_iff.mpr (List.forall₂_map_right_iff.mpr ?_))
          exact forall_related operands fun e member f upTo => ih e member (names e member) upTo
  | split e keys dataName ih others =>
      simp only [replaceOutside,replaceOutsideKeys_map,namesOutside,namesOutsideKeys_flatMap,
        List.forall_mem_append,List.forall_mem_flatMap] at taken names ⊢
      cases taken with
      | aggregate whole holds => cases whole
      | split operand same each =>
          simp only [List.map_map,List.forall₂_map_left_iff,List.forall₂_map_right_iff] at each
          simp only [replaceOutside,replaceOutsideKeys_map]
          refine .split (ih names.1 operand) (by simpa [List.map_map,Function.comp_def] using same) ?_
          simp only [List.map_map,List.forall₂_map_left_iff,List.forall₂_map_right_iff]
          exact forall_related each fun key member l upTo =>
            others key member (names.2 key member) upTo

end Expr

open OlapQuery.Expr

theorem find_named {key : α → String} {xs : List α} (distinct : (xs.map key).Nodup) {x : α}
    (member : x ∈ xs) : xs.find? (fun y => key y == key x) = some x := by
  induction xs with
  | nil => cases member
  | cons first rest ih =>
      simp only [List.map_cons,List.nodup_cons] at distinct
      rcases List.mem_cons.mp member with rfl | later
      · simp
      · have other : key first ≠ key x := fun same =>
          distinct.1 (same ▸ List.mem_map_of_mem later)
        simpa [other] using ih distinct.2 later

theorem find_unnamed {key : α → String} {xs : List α} {name : String}
    (unknown : name ∉ xs.map key) : xs.find? (fun x => key x == name) = none := by
  simp only [List.find?_eq_none,beq_iff_eq]
  exact fun x member same => unknown (same ▸ List.mem_map_of_mem member)

-- Each apply with the applies that it refers to written out in it, in order.
def expansions (applies : List Apply) : List (String × Expr) :=
  applies.foldl (fun earlier a =>
    earlier ++ [(a.name,a.expression.replaceOutside fun name => earlier.lookup name)]) []

def expansion? (applies : List Apply) (name : String) : Option Expr :=
  (expansions applies).lookup name

theorem expansions_append (before : List Apply) (a : Apply) :
    expansions (before ++ [a])
      = expansions before ++ [(a.name,a.expression.replaceOutside (expansion? before))] := by
  simp only [expansions,List.foldl_append,List.foldl_cons,List.foldl_nil]
  rfl

theorem expansions_extend (before after : List Apply) :
    ∃ later, expansions (before ++ after) = expansions before ++ later ∧
      later.map (·.1) = after.map (·.name) := by
  induction after using List.reverseRecOn with
  | nil => exact ⟨[],by simp,rfl⟩
  | append_singleton after a ih =>
      obtain ⟨later,extended,names⟩ := ih
      rw [← List.append_assoc,expansions_append,extended,List.append_assoc]
      exact ⟨_,rfl,by simp [names]⟩

theorem lookup_unknown {definitions : List (String × Expr)} {name : String} :
    definitions.lookup name = none ↔ name ∉ definitions.map (·.1) := by
  simp only [List.lookup_eq_none_iff,bne_iff_ne,List.mem_map,not_exists,not_and]
  exact forall₂_congr fun definition _ => ne_comm

theorem expansions_names (applies : List Apply) :
    (expansions applies).map (·.1) = applies.map (·.name) := by
  obtain ⟨later,whole,names⟩ := expansions_extend [] applies
  have all : expansions applies = later := whole
  rw [all,names]

theorem expansion_unknown {applies : List Apply} {name : String} :
    expansion? applies name = none ↔ name ∉ applies.map (·.name) := by
  rw [expansion?,lookup_unknown,expansions_names]

theorem expansion_earlier {before : List Apply} {name : String}
    (known : name ∈ before.map (·.name)) (after : List Apply) :
    expansion? (before ++ after) name = expansion? before name := by
  obtain ⟨later,whole,-⟩ := expansions_extend before after
  obtain ⟨e,found⟩ := Option.ne_none_iff_exists'.mp (fun none => expansion_unknown.mp none known)
  rw [found]
  rw [expansion?] at found ⊢
  rw [whole,List.lookup_append,found,Option.some_or]

theorem expansion_fixed {applies : List Apply} (distinct : (applies.map (·.name)).Nodup)
    (ordered : ∀ before a after, applies = before ++ a :: after →
      ∀ name ∈ a.expression.namesOutside, name ∈ before.map (·.name) ∨ name ∉ applies.map (·.name))
    {a : Apply} (member : a ∈ applies) :
    expansion? applies a.name = some (a.expression.replaceOutside (expansion? applies)) := by
  obtain ⟨before,after,place⟩ := List.append_of_mem member
  have fresh : a.name ∉ before.map (·.name) := by
    rw [place,List.map_append,List.nodup_append] at distinct
    exact fun early => distinct.2.2 _ early _ (by simp) rfl
  have own : expansion? (before ++ [a]) a.name
      = some (a.expression.replaceOutside (expansion? before)) := by
    have none := expansion_unknown.mpr fresh
    rw [expansion?] at none
    simp [expansion?,expansions_append,List.lookup_append,none]
  have whole : applies = (before ++ [a]) ++ after := by simp [place]
  have same : a.expression.replaceOutside (expansion? before)
      = a.expression.replaceOutside (expansion? applies) := by
    refine replaceOutside_congr fun name outside => ?_
    rcases ordered before a after place name outside with early | unknown
    · rw [place,expansion_earlier early]
    · have missing : name ∉ before.map (·.name) := fun early => unknown (by simp [place,early])
      rw [expansion_unknown.mpr unknown,expansion_unknown.mpr missing]
  rw [← same,← own,whole]
  exact expansion_earlier (by simp) after

-- A name that is neither an apply nor made up.
def Free (applies : List Apply) (name : String) : Prop :=
  isSynthetic name = false ∧ name ∉ applies.map (·.name)

-- Applies that can be computed one after the other: a name outside of aggregates is that of an
-- earlier apply or of none, and inside of aggregates only columns and other aggregates are named.
structure Sequential (applies : List Apply) : Prop where
  distinct : (applies.map (·.name)).Nodup
  unmarked : ∀ a ∈ applies, isSynthetic a.name = false
  ordered : ∀ before a after, applies = before ++ a :: after →
    ∀ name ∈ a.expression.namesOutside, name ∈ before.map (·.name) ∨ Free applies name
  closed : ∀ a ∈ applies, a.expanded = true → a.expression.namesOutside = []
  apart : ∀ a ∈ applies, ∀ aggregate ∈ a.expression.aggregates, ∀ b ∈ applies,
    b.expression.isAggregate = false → ¬ Mentions b.name aggregate

theorem Sequential.expansion {applies : List Apply} (sequential : Sequential applies) {a : Apply}
    (member : a ∈ applies) :
    expansion? applies a.name = some (a.expression.replaceOutside (expansion? applies)) :=
  expansion_fixed sequential.distinct (fun before a after place name outside =>
    (sequential.ordered before a after place name outside).imp_right (·.2)) member

namespace AggregateSet

-- The aggregates with names of their own, and the other applies in the order they are derived.
def bare (applies : List Apply) : List NamedAggregate :=
  (applies.filter (·.expression.isAggregate)).map fun a =>
    { name := a.name,expression := a.expression,synthetic := false }

def derivedFrom (applies : List Apply) : List Apply :=
  applies.filter (fun a => !a.expression.isAggregate)

def derivedOrder (applies : List Apply) : List Apply :=
  (derivedFrom applies).filter (·.expanded) ++ (derivedFrom applies).filter (fun a => !a.expanded)

theorem derivedOrder_source {applies : List Apply} {a : Apply} (member : a ∈ derivedOrder applies) :
    a ∈ applies ∧ a.expression.isAggregate = false := by
  simp only [derivedOrder,derivedFrom,List.mem_append,List.mem_filter] at member
  rcases member with ⟨⟨listed,derived⟩,-⟩ | ⟨⟨listed,derived⟩,-⟩ <;>
    exact ⟨listed,by simpa using derived⟩

theorem derivedOrder_all {applies : List Apply} {a : Apply} (listed : a ∈ applies)
    (derived : a.expression.isAggregate = false) : a ∈ derivedOrder applies := by
  cases expanded : a.expanded <;> simp [derivedOrder,derivedFrom,listed,derived,expanded]

theorem derivedOrder_others {applies done rest : List Apply} {a : Apply}
    (place : derivedOrder applies = done ++ a :: rest) (last : a.expanded = false) :
    ∃ early, done = (derivedFrom applies).filter (·.expanded) ++ early ∧
      (derivedFrom applies).filter (fun b => !b.expanded) = early ++ a :: rest := by
  rcases List.append_eq_append_iff.mp place with ⟨early,all,others⟩ | ⟨late,first,others⟩
  · exact ⟨early,all,others⟩
  · cases late with
    | nil => exact ⟨[],by simpa using first.symm,others.symm⟩
    | cons b late =>
        cases others
        have expanded : a ∈ (derivedFrom applies).filter (·.expanded) := by simp [first]
        simp [last] at expanded

theorem collect_run (applies : List Apply) :
    ∃ posts made, (derivedOrder applies).foldlM (derive (bare applies)) [] [] = (posts,made) ∧
      collect applies = { aggregates := bare applies ++ made,postAggregates := posts } := by
  refine ⟨_,_,rfl,?_⟩
  unfold collect
  simp only [List.partition_eq_filter_filter]
  rfl

theorem syntheticName_injective {m n : Nat} (same : syntheticName m = syntheticName n) : m = n := by
  have digits : toString m = toString n := by
    simpa [syntheticName,String.append_assoc,String.append_right_inj] using same
  rw [Nat.toString_eq_ofList_toDigits,Nat.toString_eq_ofList_toDigits] at digits
  have equal := congrArg (Nat.ofDigitChars 10 · 0) (String.ofList_injective digits)
  simpa [Nat.ofDigitChars_ten_toDigits] using equal

theorem syntheticName_marked (n : Nat) : isSynthetic (syntheticName n) = true := by
  simp [isSynthetic,syntheticName]

-- Made-up aggregates: numbered in order, and none the same as an aggregate before it.
structure Numbered (named made : List NamedAggregate) : Prop where
  names : made.map (·.name) = (List.range made.length).map syntheticName
  made_up : ∀ a ∈ made, a.synthetic = true
  different : (named ++ made).Pairwise fun a b =>
    b.synthetic = true → a.expression.same b.expression = false

-- What stands for an aggregate: a name under which it, or one that is the same, is known.
def StandsFor (known : List NamedAggregate) (a b : Expr) : Prop :=
  ∃ k ∈ known, b = .ref k.name ∧ (k.expression = a ∨ k.expression.same a = true)

theorem nameFor_cases {named made later : List NamedAggregate} {a b : Expr}
    (ran : nameFor named a made = (b,later)) :
    (∃ k ∈ named ++ made, k.expression.same a = true ∧ b = .ref k.name ∧ later = made) ∨
    ((∀ k ∈ named ++ made, k.expression.same a = false) ∧
      b = .ref (syntheticName made.length) ∧
      later = made ++ [{ name := syntheticName made.length,expression := a,synthetic := true }]) := by
  change (StateT.run (nameFor named a) made) = _ at ran
  cases found : (named ++ made).find? (fun k => k.expression.same a) with
  | some k =>
      simp only [nameFor,StateT.run_bind,StateT.run_get,pure_bind,found,StateT.run_pure] at ran
      cases ran
      have same : k.expression.same a = true := by simpa using List.find?_some found
      exact .inl ⟨k,List.mem_of_find?_eq_some found,same,rfl,rfl⟩
  | none =>
      simp only [nameFor,StateT.run_bind,StateT.run_get,pure_bind,found,StateT.run_set,
        StateT.run_pure] at ran
      cases ran
      exact .inr ⟨by simpa using List.find?_eq_none.mp found,rfl,rfl⟩

def Grows (named early late : List NamedAggregate) : Prop :=
  early <+: late ∧ (Numbered named early → Numbered named late)

theorem nameFor_stands {named made later : List NamedAggregate} {a b : Expr}
    (ran : nameFor named a made = (b,later)) :
    Grows named made later ∧ StandsFor (named ++ later) a b := by
  rcases nameFor_cases ran with ⟨k,member,same,rfl,rfl⟩ | ⟨fresh,rfl,rfl⟩
  · exact ⟨⟨List.prefix_rfl,id⟩,k,member,rfl,.inr same⟩
  · refine ⟨⟨List.prefix_append _ _,fun numbered => ⟨?_,?_,?_⟩⟩,?_⟩
    · simp [numbered.names,List.range_succ]
    · exact List.forall_mem_append.mpr ⟨numbered.made_up,by simp⟩
    · rw [← List.append_assoc]
      refine List.pairwise_append.mpr ⟨numbered.different,List.pairwise_singleton _ _,?_⟩
      intro k member new last _
      rw [List.mem_singleton.mp last]; exact fresh k member
    · exact ⟨_,List.mem_append_right _ (List.mem_append_right _ List.mem_cons_self),rfl,.inl rfl⟩

theorem StandsFor.grows {known more : List NamedAggregate} (included : known ⊆ more) {a b : Expr}
    (stands : StandsFor known a b) : StandsFor more a b := by
  obtain ⟨k,member,rest⟩ := stands
  exact ⟨k,included member,rest⟩

theorem named_stands {named made later : List NamedAggregate} {e e' : Expr}
    (ran : e.mapAggregatesM (nameFor named) made = (e',later)) :
    Grows named made later ∧ UpTo (StandsFor (named ++ later)) e e' := by
  have kept : ∀ {early late a b}, Grows named early late →
      StandsFor (named ++ early) a b → StandsFor (named ++ late) a b :=
    fun grows => StandsFor.grows fun _ member =>
      List.mem_append.mpr ((List.mem_append.mp member).imp_right fun made => grows.1.subset made)
  have each : ∀ a ∈ e.aggregates, ∀ {s b t},
      (Outcomes.state (List NamedAggregate)).gives (nameFor named a) s b t →
        Grows named s t ∧ StandsFor (named ++ t) a b :=
    fun _ _ _ _ _ ran => nameFor_stands ran
  exact mapAggregatesM_upTo (.state _) (Grows named) (fun _ => ⟨List.prefix_rfl,id⟩)
    (fun first second => ⟨first.1.trans second.1,second.2 ∘ first.2⟩)
    (fun made => StandsFor (named ++ made)) kept each ran

theorem stands_names {known : List NamedAggregate} {e e' : Expr}
    (taken : UpTo (StandsFor known) e e') :
    e'.aggregates = [] ∧ (∀ name ∈ e.namesOutside, name ∈ e'.namesOutside) ∧
      ∀ name ∈ e'.namesOutside, name ∈ e.namesOutside ∨ name ∈ known.map (·.name) := by
  obtain ⟨images,stands,aggregates,names⟩ := taken.brought
  simp only [List.flatMap_singleton] at aggregates names
  have references : ∀ image ∈ images, ∃ k ∈ known, image = .ref k.name := by
    intro image member
    obtain ⟨_,-,k,listed,equal,-⟩ := related_source stands member
    exact ⟨k,listed,equal⟩
  refine ⟨?_,fun name outside => (names name).mpr (.inl outside),fun name outside => ?_⟩
  · rw [aggregates,List.flatMap_eq_nil_iff]
    intro image member
    obtain ⟨k,-,rfl⟩ := references image member
    rfl
  · refine ((names name).mp outside).imp_right fun brought => ?_
    obtain ⟨image,member,inside⟩ := List.mem_flatMap.mp brought
    obtain ⟨k,listed,rfl⟩ := references image member
    rw [List.mem_singleton.mp inside]
    exact List.mem_map_of_mem listed

theorem derive_parts {named made more : List NamedAggregate} {posts later : List PostAggregate}
    {a : Apply} (ran : derive named posts a made = (later,more)) :
    ∃ e, later = posts ++ [{ name := a.name,expression := e }] ∧ Grows named made more ∧
      UpTo (StandsFor (named ++ more)) (inlinePosts posts a.expression) e := by
  obtain ⟨e,further,ran,last⟩ := (Outcomes.state (List NamedAggregate)).of_bind ran
  cases last
  exact ⟨e,rfl,named_stands ran⟩

def expressionOf (known : List NamedAggregate) (name : String) : Option Expr :=
  (known.find? (fun a => a.name == name)).map (·.expression)

def arithmetic (posts : List PostAggregate) : List (String × Expr) :=
  posts.map fun post => (post.name,post.expression)

def arithmeticOf (posts : List PostAggregate) (name : String) : Option Expr :=
  (arithmetic posts).lookup name

theorem inlinePosts_inline (posts : List PostAggregate) (e : Expr) :
    inlinePosts posts e = Sql.inline (arithmetic posts) e := by
  simp [inlinePosts,Sql.inline,arithmetic,List.foldl_map]

-- Derived applies name none of each other any more, and no aggregate names one, so they are
-- written out all at once.
theorem inlinePosts_replace {posts : List PostAggregate} {e : Expr}
    (plain : ∀ post ∈ posts, post.expression.aggregates = [])
    (apart : ∀ post ∈ posts, ∀ name ∈ post.expression.namesOutside, name ∉ posts.map (·.name))
    (unmentioned : ∀ a ∈ e.aggregates, ∀ post ∈ posts, ¬ Mentions post.name a) :
    inlinePosts posts e = e.replaceOutside (arithmeticOf posts) := by
  rw [inlinePosts_inline]
  refine Sql.inline_replace ?_ (Sql.uncaptured_apart ?_)
  · intro d member name outside other found same
    obtain ⟨post,listed,rfl⟩ := List.mem_map.mp member
    obtain ⟨next,later,rfl⟩ := List.mem_map.mp found
    exact absurd (same ▸ List.mem_map_of_mem later) (apart post listed name outside)
  · intro a present d member mentioned
    obtain ⟨post,listed,rfl⟩ := List.mem_map.mp member
    rcases present with own | ⟨other,found,inside⟩
    · exact absurd mentioned (unmentioned a own post listed)
    · obtain ⟨next,later,rfl⟩ := List.mem_map.mp found
      rw [plain next later] at inside; cases inside

theorem bare_source {applies : List Apply} {k : NamedAggregate} (member : k ∈ bare applies) :
    ∃ b ∈ applies, b.expression.isAggregate = true ∧
      k = { name := b.name,expression := b.expression,synthetic := false } := by
  obtain ⟨b,listed,rfl⟩ := List.mem_map.mp member
  obtain ⟨listed,aggregate⟩ := List.mem_filter.mp listed
  exact ⟨b,listed,aggregate,rfl⟩

theorem bare_listed {applies : List Apply} {a : Apply} (listed : a ∈ applies)
    (aggregate : a.expression.isAggregate = true) :
    { name := a.name,expression := a.expression,synthetic := false } ∈ bare applies :=
  List.mem_map_of_mem (List.mem_filter.mpr ⟨listed,aggregate⟩)

theorem arithmeticOf_source {posts : List PostAggregate} {name : String} {e : Expr}
    (found : arithmeticOf posts name = some e) :
    ∃ post ∈ posts, post.name = name ∧ post.expression = e := by
  obtain ⟨before,after,whole,-⟩ := List.lookup_eq_some_iff.mp found
  have member : (name,e) ∈ arithmetic posts := by simp [whole]
  obtain ⟨post,listed,equal⟩ := List.mem_map.mp member
  cases equal
  exact ⟨post,listed,rfl,rfl⟩

theorem arithmeticOf_missing {posts : List PostAggregate} {name : String}
    (missing : arithmeticOf posts name = none) : name ∉ posts.map (·.name) := by
  have none := lookup_unknown.mp missing
  simpa [arithmetic,Function.comp_def] using none

theorem expressionOf_free {applies : List Apply} {made : List NamedAggregate}
    (numbered : Numbered (bare applies) made) {name : String} (free : Free applies name) :
    expressionOf (bare applies ++ made) name = none := by
  have unknown : name ∉ (bare applies ++ made).map (·.name) := by
    rw [List.map_append,List.mem_append]
    rintro (named | made)
    · obtain ⟨k,member,rfl⟩ := List.mem_map.mp named
      obtain ⟨b,listed,-,rfl⟩ := bare_source member
      exact free.2 (List.mem_map_of_mem listed)
    · rw [numbered.names] at made
      obtain ⟨n,-,rfl⟩ := List.mem_map.mp made
      have unmarked := free.1
      rw [syntheticName_marked] at unmarked
      cases unmarked
  simp [expressionOf,find_unnamed unknown]

section
variable {applies : List Apply} (sequential : Sequential applies)
include sequential

theorem same_apply {a b : Apply} (first : a ∈ applies) (second : b ∈ applies)
    (named : a.name = b.name) : a = b :=
  List.inj_on_of_nodup_map sequential.distinct first second named

theorem bare_distinct : ((bare applies).map (·.name)).Nodup := by
  have names : (bare applies).map (·.name)
      = (applies.filter (·.expression.isAggregate)).map (·.name) := by
    simp [bare,Function.comp_def]
  rw [names]
  exact sequential.distinct.sublist (List.filter_sublist.map _)

theorem known_underived {made : List NamedAggregate} (numbered : Numbered (bare applies) made)
    {b : Apply} (member : b ∈ applies) (derived : b.expression.isAggregate = false) :
    b.name ∉ (bare applies ++ made).map (·.name) := by
  rw [List.map_append,List.mem_append]
  rintro (named | made)
  · simp only [bare,List.map_map,List.mem_map,List.mem_filter] at named
    obtain ⟨a,⟨listed,aggregate⟩,same⟩ := named
    rw [same_apply sequential listed member same,derived] at aggregate
    cases aggregate
  · rw [numbered.names] at made
    obtain ⟨n,-,same⟩ := List.mem_map.mp made
    have unmarked := sequential.unmarked b member
    rw [← same,syntheticName_marked] at unmarked
    cases unmarked

theorem known_distinct {made : List NamedAggregate} (numbered : Numbered (bare applies) made) :
    ((bare applies ++ made).map (·.name)).Nodup := by
  rw [List.map_append]
  refine List.nodup_append.mpr ⟨bare_distinct sequential,?_,?_⟩
  · rw [numbered.names]
    exact List.Nodup.map (fun _ _ => syntheticName_injective) List.nodup_range
  · rintro name named _ made rfl
    simp only [bare,List.map_map,List.mem_map,List.mem_filter] at named
    obtain ⟨a,⟨listed,-⟩,same⟩ := named
    rw [numbered.names] at made
    obtain ⟨n,-,equal⟩ := List.mem_map.mp made
    have unmarked := sequential.unmarked a listed
    rw [show a.name = name from same,← equal,syntheticName_marked] at unmarked
    cases unmarked

theorem expressionOf_known {made : List NamedAggregate} (numbered : Numbered (bare applies) made)
    {k : NamedAggregate} (member : k ∈ bare applies ++ made) :
    expressionOf (bare applies ++ made) k.name = some k.expression := by
  rw [expressionOf,find_named (known_distinct sequential numbered) member]
  rfl

theorem derivedOrder_earlier {done rest : List Apply} {a : Apply}
    (place : derivedOrder applies = done ++ a :: rest) :
    ∀ name ∈ a.expression.namesOutside, name ∈ (bare applies).map (·.name) ∨
      name ∈ done.map (·.name) ∨ Free applies name := by
  intro name outside
  have listed : a ∈ derivedOrder applies := by simp [place]
  have derived := derivedOrder_source listed
  have last : a.expanded = false := by
    cases expanded : a.expanded with
    | false => rfl
    | true => rw [sequential.closed a derived.1 expanded] at outside; cases outside
  obtain ⟨early,all,others⟩ := derivedOrder_others place last
  rw [derivedFrom,List.filter_filter] at others
  obtain ⟨before,after,split,kept,later⟩ := List.filter_eq_append_iff.mp others
  obtain ⟨skipped,tail,rfl,none,-,-⟩ := List.filter_eq_cons_iff.mp later
  rcases sequential.ordered (before ++ skipped) a tail (by simp [split]) name outside with
    earlier | free
  · obtain ⟨b,found,rfl⟩ := List.mem_map.mp earlier
    have member : b ∈ applies := by
      rw [split,← List.append_assoc]; exact List.mem_append_left _ found
    cases aggregate : b.expression.isAggregate with
    | true => exact .inl (List.mem_map.mpr ⟨_,bare_listed member aggregate,rfl⟩)
    | false =>
        refine .inr (.inl (List.mem_map_of_mem ?_))
        rw [all,List.mem_append]
        cases expanded : b.expanded with
        | true => exact .inl (by simp [derivedFrom,member,aggregate,expanded])
        | false =>
            rcases List.mem_append.mp found with inside | skip
            · rw [← kept]; exact .inr (by simp [inside,aggregate,expanded])
            · exact absurd (by simp [aggregate,expanded]) (none b skip)
  · exact .inr (.inr free)

end

-- What the arithmetic found so far owes to the applies that were derived.
structure Derived (applies done : List Apply) (posts : List PostAggregate)
    (made : List NamedAggregate) : Prop where
  numbered : Numbered (bare applies) made
  names : posts.map (·.name) = done.map (·.name)
  plain : ∀ post ∈ posts, post.expression.aggregates = []
  known : ∀ post ∈ posts, ∀ name ∈ post.expression.namesOutside,
    name ∈ (bare applies ++ made).map (·.name) ∨ Free applies name
  restored : ∀ post ∈ posts,
    UpTo Alike ((expansion? applies post.name).getD (.ref post.name))
      (post.expression.replaceOutside (expressionOf (bare applies ++ made)))

theorem derived_start (applies : List Apply) : Derived applies [] [] [] := by
  refine ⟨⟨rfl,by simp,?_⟩,rfl,by simp,by simp,by simp⟩
  rw [List.append_nil,bare,List.pairwise_map]
  exact List.pairwise_of_forall fun _ _ made => nomatch made

section
variable {applies : List Apply} (sequential : Sequential applies)
include sequential

-- A name outside of a derived apply, with the derived applies so far written out, comes to what
-- it stands for when the aggregates are put back.
theorem name_restored {done rest : List Apply} {posts : List PostAggregate}
    {made : List NamedAggregate} {a : Apply} (place : derivedOrder applies = done ++ a :: rest)
    (derived : Derived applies done posts made) :
    ∀ name ∈ a.expression.namesOutside,
      ((arithmeticOf posts name).getD (.ref name)).aggregates = [] ∧
      UpTo Alike ((expansion? applies name).getD (.ref name))
        (((arithmeticOf posts name).getD (.ref name)).replaceOutside
          (expressionOf (bare applies ++ made))) := by
  intro name outside
  cases found : arithmeticOf posts name with
  | some e =>
      obtain ⟨post,member,rfl,rfl⟩ := arithmeticOf_source found
      exact ⟨derived.plain post member,derived.restored post member⟩
  | none =>
      refine ⟨rfl,?_⟩
      simp only [Option.getD_none,replaceOutside]
      rcases derivedOrder_earlier sequential place name outside with named | early | free
      · obtain ⟨k,member,rfl⟩ := List.mem_map.mp named
        rw [expressionOf_known sequential derived.numbered (List.mem_append_left _ member)]
        obtain ⟨b,listed,aggregate,rfl⟩ := bare_source member
        rw [sequential.expansion listed,replaceOutside_aggregate _ aggregate]
        exact .aggregate aggregate (.inl rfl)
      · rw [← derived.names] at early
        exact absurd early (arithmeticOf_missing found)
      · rw [expressionOf_free derived.numbered free,expansion_unknown.mpr free.2]
        exact .ref

theorem inlined_known {done rest : List Apply} {posts : List PostAggregate}
    {made : List NamedAggregate} {a : Apply} (place : derivedOrder applies = done ++ a :: rest)
    (derived : Derived applies done posts made) {name : String}
    (outside : name ∈ (a.expression.replaceOutside (arithmeticOf posts)).namesOutside) :
    name ∈ (bare applies ++ made).map (·.name) ∨ Free applies name := by
  obtain ⟨other,own,inside⟩ := (namesOutside_replaceOutside _ _ _).mp outside
  cases found : arithmeticOf posts other with
  | some e =>
      obtain ⟨post,member,rfl,rfl⟩ := arithmeticOf_source found
      rw [found] at inside
      exact derived.known post member name inside
  | none =>
      rw [found] at inside
      cases List.mem_singleton.mp inside
      rcases derivedOrder_earlier sequential place name own with named | early | free
      · exact .inl (by rw [List.map_append]; exact List.mem_append_left _ named)
      · rw [← derived.names] at early
        exact absurd early (arithmeticOf_missing found)
      · exact .inr free

theorem Derived.grown {done : List Apply} {posts : List PostAggregate}
    {made more : List NamedAggregate} (derived : Derived applies done posts made)
    (grows : Grows (bare applies) made more) : Derived applies done posts more := by
  have numbered := grows.2 derived.numbered
  have included : ∀ k ∈ bare applies ++ made, k ∈ bare applies ++ more := fun k member =>
    List.mem_append.mpr ((List.mem_append.mp member).imp_right fun early => grows.1.subset early)
  refine ⟨numbered,derived.names,derived.plain,?_,?_⟩
  · intro post member name outside
    refine (derived.known post member name outside).imp_left fun known => ?_
    obtain ⟨k,listed,rfl⟩ := List.mem_map.mp known
    exact List.mem_map_of_mem (included k listed)
  · intro post member
    have same : post.expression.replaceOutside (expressionOf (bare applies ++ made))
        = post.expression.replaceOutside (expressionOf (bare applies ++ more)) := by
      refine replaceOutside_congr fun name outside => ?_
      rcases derived.known post member name outside with known | free
      · obtain ⟨k,listed,rfl⟩ := List.mem_map.mp known
        rw [expressionOf_known sequential derived.numbered listed,
          expressionOf_known sequential numbered (included k listed)]
      · rw [expressionOf_free derived.numbered free,
          expressionOf_free numbered free]
    rw [← same]; exact derived.restored post member

theorem inlined_replace {done rest : List Apply} {posts : List PostAggregate}
    {made : List NamedAggregate} {a : Apply} (place : derivedOrder applies = done ++ a :: rest)
    (derived : Derived applies done posts made) :
    inlinePosts posts a.expression = a.expression.replaceOutside (arithmeticOf posts) := by
  have source : ∀ name ∈ posts.map (·.name), ∃ b ∈ applies, b.expression.isAggregate = false ∧
      b.name = name := by
    intro name member
    rw [derived.names] at member
    obtain ⟨b,listed,rfl⟩ := List.mem_map.mp member
    obtain ⟨found,plain⟩ := derivedOrder_source (show b ∈ derivedOrder applies by simp [place,listed])
    exact ⟨b,found,plain,rfl⟩
  refine inlinePosts_replace derived.plain ?_ ?_
  · intro post member name outside again
    obtain ⟨b,listed,plain,rfl⟩ := source name again
    rcases derived.known post member _ outside with known | free
    · exact known_underived sequential derived.numbered listed plain known
    · exact free.2 (List.mem_map_of_mem listed)
  · intro aggregate inside post member
    obtain ⟨b,listed,plain,named⟩ := source post.name (List.mem_map_of_mem member)
    obtain ⟨own,-⟩ := derivedOrder_source (show a ∈ derivedOrder applies by simp [place])
    rw [← named]
    exact sequential.apart a own aggregate inside b listed plain

theorem derived_step {done rest : List Apply} {posts later : List PostAggregate}
    {made more : List NamedAggregate} {a : Apply} (place : derivedOrder applies = done ++ a :: rest)
    (derived : Derived applies done posts made)
    (ran : derive (bare applies) posts a made = (later,more)) :
    Derived applies (done ++ [a]) later more := by
  obtain ⟨e,rfl,grows,taken⟩ := derive_parts ran
  rw [inlined_replace sequential place derived] at taken
  obtain ⟨plain,-,names⟩ := stands_names taken
  have grown := derived.grown sequential grows
  refine ⟨grown.numbered,by simp [derived.names],?_,?_,?_⟩
  · exact List.forall_mem_append.mpr ⟨grown.plain,List.forall_mem_singleton.mpr plain⟩
  · refine List.forall_mem_append.mpr ⟨grown.known,List.forall_mem_singleton.mpr ?_⟩
    intro name outside
    rcases names name outside with inlined | known
    · exact inlined_known sequential place grown inlined
    · exact .inl known
  · refine List.forall_mem_append.mpr ⟨grown.restored,List.forall_mem_singleton.mpr ?_⟩
    have own := (derivedOrder_source (show a ∈ derivedOrder applies by simp [place])).1
    rw [sequential.expansion own]
    refine UpTo.restored ?_ (name_restored sequential place grown) taken
    rintro aggregate _ ⟨k,known,rfl,same⟩
    simp only [replaceOutside,expressionOf_known sequential grown.numbered known]
    exact same

theorem derived_run {done rest : List Apply} {posts later : List PostAggregate}
    {made more : List NamedAggregate} (place : derivedOrder applies = done ++ rest)
    (derived : Derived applies done posts made)
    (ran : rest.foldlM (derive (bare applies)) posts made = (later,more)) :
    Derived applies (derivedOrder applies) later more := by
  induction rest generalizing done posts made with
  | nil =>
      cases ran
      rw [place,List.append_nil]; exact derived
  | cons a rest ih =>
      obtain ⟨next,further,first,ran⟩ := (Outcomes.state (List NamedAggregate)).of_bind ran
      exact ih (by simp [place]) (derived_step sequential place derived first) ran

theorem collect_derived : ∃ posts made,
    collect applies = { aggregates := bare applies ++ made,postAggregates := posts } ∧
      Derived applies (derivedOrder applies) posts made := by
  obtain ⟨posts,made,ran,whole⟩ := collect_run applies
  have place : derivedOrder applies = [] ++ derivedOrder applies := rfl
  exact ⟨posts,made,whole,derived_run sequential place (derived_start applies) ran⟩

theorem collect_posts {a : Apply} (member : a ∈ applies)
    (plain : a.expression.isAggregate = false) :
    ∃ post ∈ (collect applies).postAggregates, post.name = a.name := by
  obtain ⟨posts,made,whole,derived⟩ := collect_derived sequential
  have named : a.name ∈ posts.map (·.name) := by
    rw [derived.names]
    exact List.mem_map_of_mem (derivedOrder_all member plain)
  rw [whole]
  exact List.mem_map.mp named

theorem collect_restored {post : PostAggregate}
    (member : post ∈ (collect applies).postAggregates) : ∃ expansion,
      expansion? applies post.name = some expansion ∧
      UpTo Alike expansion (post.expression.replaceOutside fun name =>
        ((collect applies).aggregate? name).map (·.expression)) := by
  obtain ⟨posts,made,whole,derived⟩ := collect_derived sequential
  rw [whole] at member ⊢
  have known : post.name ∈ applies.map (·.name) := by
    have derivedName : post.name ∈ (derivedOrder applies).map (·.name) :=
      derived.names ▸ List.mem_map_of_mem member
    obtain ⟨a,listed,same⟩ := List.mem_map.mp derivedName
    exact same ▸ List.mem_map_of_mem (derivedOrder_source listed).1
  obtain ⟨expansion,found⟩ :=
    Option.ne_none_iff_exists'.mp fun none => expansion_unknown.mp none known
  have restored := derived.restored post member
  rw [found] at restored
  exact ⟨expansion,found,restored⟩

end

theorem collect_bare {applies : List Apply} {a : Apply} (member : a ∈ applies)
    (aggregate : a.expression.isAggregate = true) :
    { name := a.name,expression := a.expression,synthetic := false }
      ∈ (collect applies).aggregates := by
  obtain ⟨posts,made,-,whole⟩ := collect_run applies
  rw [whole]
  exact List.mem_append_left _ (bare_listed member aggregate)

-- Made-up aggregates come last, so what differs from those before it differs from all.
theorem Numbered.unlike {applies : List Apply} {made : List NamedAggregate}
    (numbered : Numbered (bare applies) made) :
    (bare applies ++ made).Pairwise fun a b => a.synthetic = true ∨ b.synthetic = true →
      a.expression.same b.expression = false ∧ b.expression.same a.expression = false := by
  have both : ∀ {a b : NamedAggregate}, a.expression.same b.expression = false →
      a.expression.same b.expression = false ∧ b.expression.same a.expression = false :=
    fun {a b} different => ⟨different,same_comm a.expression b.expression ▸ different⟩
  obtain ⟨-,later,across⟩ := List.pairwise_append.mp numbered.different
  refine List.pairwise_append.mpr ⟨?_,?_,?_⟩
  · rw [bare,List.pairwise_map]
    refine List.pairwise_of_forall ?_
    rintro a b (made | made) <;> cases made
  · exact later.imp_of_mem fun _ member different _ => both (different (numbered.made_up _ member))
  · exact fun a early b late _ => both (across a early b late (numbered.made_up b late))

end AggregateSet

open AggregateSet

-- For applies that name earlier ones only, outside of aggregates: no arithmetic holds an
-- aggregate; a made-up aggregate is the same as no other; applies that are aggregates are among
-- the aggregates and all others among the arithmetic; and the arithmetic with its aggregates put
-- back is the apply with every name in it written out.
theorem collection_faithful {applies : List Apply} (distinct : (applies.map (·.name)).Nodup)
    (unmarked : ∀ a ∈ applies, isSynthetic a.name = false)
    (earlier : ∀ before a after, applies = before ++ a :: after →
      ∀ name ∈ a.expression.namesOutside, name ∈ before.map (·.name))
    (closed : ∀ a ∈ applies, a.expanded = true → a.expression.namesOutside = [])
    (apart : ∀ a ∈ applies, ∀ aggregate ∈ a.expression.aggregates, ∀ b ∈ applies,
      b.expression.isAggregate = false → ¬ Mentions b.name aggregate) :
    (∀ post ∈ (collect applies).postAggregates, post.expression.containsAggregate = false) ∧
    ((collect applies).aggregates.Pairwise fun a b => a.synthetic = true ∨ b.synthetic = true →
      a.expression.same b.expression = false ∧ b.expression.same a.expression = false) ∧
    (∀ a ∈ applies, a.expression.isAggregate = true →
      { name := a.name,expression := a.expression,synthetic := false }
        ∈ (collect applies).aggregates) ∧
    (∀ a ∈ applies, a.expression.isAggregate = false →
      ∃ post ∈ (collect applies).postAggregates, post.name = a.name) ∧
    ∀ post ∈ (collect applies).postAggregates, ∃ expansion,
      expansion? applies post.name = some expansion ∧
      UpTo Alike expansion (post.expression.replaceOutside fun name =>
        ((collect applies).aggregate? name).map (·.expression)) ∧
      (expansion.same expansion = true → (post.expression.replaceOutside fun name =>
        ((collect applies).aggregate? name).map (·.expression)).same expansion = true) := by
  have sequential : Sequential applies :=
    ⟨distinct,unmarked,fun before a after place name outside =>
      .inl (earlier before a after place name outside),closed,apart⟩
  refine ⟨?_,?_,fun a => collect_bare,fun a => collect_posts sequential,?_⟩
  · obtain ⟨posts,made,whole,derived⟩ := collect_derived sequential
    rw [whole]
    exact fun post member => (containsAggregate_exact _).mpr (derived.plain post member)
  · obtain ⟨posts,made,whole,derived⟩ := collect_derived sequential
    rw [whole]
    exact derived.numbered.unlike
  · intro post member
    obtain ⟨expansion,found,restored⟩ := collect_restored sequential member
    exact ⟨expansion,found,restored,restored.same_of_alike⟩

namespace Shares

def added : Expr :=
  .sum (.ref "data") (.ref "added")

def mean : Expr :=
  .divide added (.count (.ref "data"))

def applies : List Apply :=
  [{ name := "Added",expression := added },
    { name := "Mean",expression := mean,expanded := true },
    { name := "Share",expression := .divide (.ref "Mean") (.ref "Added") }]

theorem share_restored :
    ∃ post ∈ (collect applies).postAggregates, post.name = "Share" ∧
      post.expression.containsAggregate = false ∧
      UpTo Alike (.divide mean added) (post.expression.replaceOutside fun name =>
        ((collect applies).aggregate? name).map (·.expression)) := by
  have earlier : ∀ before a after, applies = before ++ a :: after →
      ∀ name ∈ a.expression.namesOutside, name ∈ before.map (·.name) := by
    intro before a after place
    match before with
    | [] => cases place; simp [added,namesOutside,BinaryOp.isAggregate]
    | [_] => cases place; simp [mean,added,namesOutside,BinaryOp.isAggregate,UnaryOp.isAggregate]
    | [_,_] => cases place; simp [namesOutside,BinaryOp.isAggregate]
    | _ :: _ :: _ :: _ => simp [applies] at place
  have apart : ∀ a ∈ applies, ∀ aggregate ∈ a.expression.aggregates, ∀ b ∈ applies,
      b.expression.isAggregate = false → ¬ Mentions b.name aggregate := by
    simp [applies,added,mean,Expr.aggregates,BinaryOp.isAggregate,UnaryOp.isAggregate]
  obtain ⟨plain,-,-,listed,restored⟩ := collection_faithful (by decide) (by decide) earlier
    (by simp [applies,added,mean,namesOutside,BinaryOp.isAggregate,UnaryOp.isAggregate]) apart
  obtain ⟨post,member,named⟩ :=
    listed { name := "Share",expression := .divide (.ref "Mean") (.ref "Added") }
      (by simp [applies]) rfl
  obtain ⟨expansion,found,alike,-⟩ := restored post member
  rw [named] at found
  cases found
  exact ⟨post,member,named,plain post member,alike⟩

end Shares

end OlapQuery
