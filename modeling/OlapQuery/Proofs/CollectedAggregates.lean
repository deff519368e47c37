import OlapQuery.Proofs.ArithmeticNames

-- Where the aggregates that an engine computes come from. Derived applies are written out in the
-- applies after them before aggregates are taken out of these; the aggregates stay as they were
-- written exactly as long as none of them mentions a derived apply that came before.

namespace OlapQuery

open OlapQuery.Expr

namespace Expr

theorem aggregates_around {value : Expr} (plain : value.aggregates = []) (name : String)
    (e : Expr) : (substituteOutside name value e).aggregates = e.aggregates := by
  induction e using Expr.structural with
  | literal v => rfl
  | ply => rfl
  | ref other =>
      unfold substituteOutside
      split
      · exact plain
      · rfl
  | unary op e ih =>
      cases outermost : op.isAggregate <;> simp [substituteOutside,aggregates,outermost,ih]
  | binary op e x left right =>
      cases outermost : op.isAggregate <;>
        simp [substituteOutside,aggregates,outermost,left,right]
  | junction op es ih =>
      simp only [substituteOutside,substituteOutsideAll_map,aggregates,aggregatesAll_flatMap,
        List.flatMap_map]
      exact List.flatMap_congr ih
  | split e keys dataName ih others =>
      simp only [substituteOutside,substituteOutsideKeys_map,aggregates,aggregatesKeys_flatMap,
        List.flatMap_map,ih]
      rw [List.flatMap_congr others]

end Expr

theorem Sql.uncaptured_plain {definitions : List (String × Expr)}
    (plain : ∀ d ∈ definitions, d.2.aggregates = []) (e : Expr) :
    Uncaptured definitions e ↔
      ∀ d ∈ definitions, ∀ a ∈ e.aggregates, Mentions d.1 a → d.2 = .ref d.1 := by
  induction definitions generalizing e with
  | nil => simp [Uncaptured]
  | cons definition rest ih =>
      obtain ⟨own,others⟩ := List.forall_mem_cons.mp plain
      rw [Uncaptured,ih others,aggregates_around own,List.forall_mem_cons]

namespace AggregateSet

-- An outermost aggregate of one of the applies, as it is written there.
def Occurs (applies : List Apply) (x : Expr) : Prop :=
  ∃ a ∈ applies, x ∈ a.expression.aggregates

def postsBefore (applies done : List Apply) : List (String × Expr) :=
  arithmetic ((collect applies).postAggregates.take done.length)

-- Derived applies are written out only outside of aggregates.
def InlinesOutside (applies : List Apply) : Prop :=
  ∀ done a rest, derivedOrder applies = done ++ a :: rest →
    Sql.KeepsAggregates (postsBefore applies done) a.expression

-- No aggregate of a derived apply mentions one that was derived before it, unless that one is the
-- column of its own name.
def Unmentioned (applies : List Apply) : Prop :=
  ∀ done a rest, derivedOrder applies = done ++ a :: rest →
    ∀ d ∈ postsBefore applies done, ∀ x ∈ a.expression.aggregates,
      Mentions d.1 x → d.2 = .ref d.1

theorem postsBefore_plain (applies done : List Apply) :
    ∀ d ∈ postsBefore applies done, d.2.aggregates = [] := by
  intro d member
  obtain ⟨post,listed,rfl⟩ := List.mem_map.mp member
  exact (collect_arithmetic applies).2 post (List.mem_of_mem_take listed)

-- By the definitions written out so far, one apply after the other.
theorem inlinesOutside_exact (applies : List Apply) :
    InlinesOutside applies ↔ Unmentioned applies := by
  refine forall_congr' fun done => forall_congr' fun a => forall_congr' fun rest =>
    forall_congr' fun place => ?_
  rw [Sql.keepsAggregates_exact,Sql.uncaptured_plain (postsBefore_plain applies done)]

theorem nameFor_sources {named made later : List NamedAggregate} {a b : Expr}
    (ran : nameFor named a made = (b,later)) : ∀ k ∈ later, k ∈ made ∨ k.expression = a := by
  rcases nameFor_cases ran with ⟨k,member,same,rfl,rfl⟩ | ⟨fresh,rfl,rfl⟩
  · exact fun k member => .inl member
  · intro k member
    rcases List.mem_append.mp member with early | new
    · exact .inl early
    · cases List.mem_singleton.mp new
      exact .inr rfl

theorem named_sources {named made later : List NamedAggregate} {e e' : Expr}
    (ran : e.mapAggregatesM (nameFor named) made = (e',later)) :
    ∀ k ∈ later, k ∈ made ∨ k.expression ∈ e.aggregates := by
  have each : ∀ a ∈ e.aggregates, ∀ {s b t},
      (Outcomes.state (List NamedAggregate)).gives (nameFor named a) s b t →
        (∀ k ∈ t, k ∈ s ∨ k.expression ∈ e.aggregates) ∧ True := by
    intro a member s b t ran
    refine ⟨fun k listed => ?_,trivial⟩
    rcases nameFor_sources ran k listed with early | same
    · exact .inl early
    · exact .inr (same ▸ member)
  have run := mapAggregatesM_upTo (.state _)
    (fun early late => ∀ k ∈ late, k ∈ early ∨ k.expression ∈ e.aggregates)
    (fun _ _ member => .inl member)
    (fun first second k member => (second k member).elim (first k) .inr)
    (fun _ _ _ => True) (fun _ _ => trivial) each ran
  exact run.1

theorem derive_sources {named made more : List NamedAggregate} {posts later : List PostAggregate}
    {a : Apply} (ran : derive named posts a made = (later,more)) :
    ∀ k ∈ more, k ∈ made ∨ k.expression ∈ (inlinePosts posts a.expression).aggregates := by
  obtain ⟨e,further,ran,last⟩ := (Outcomes.state (List NamedAggregate)).of_bind ran
  cases last
  exact named_sources ran

-- By the applies in the order they are derived: what is written out in each has no aggregates, so
-- the aggregates found in it are its own.
theorem run_sources {named made more : List NamedAggregate} {posts later : List PostAggregate}
    {rest : List Apply} (ran : rest.foldlM (derive named) posts made = (later,more))
    (plain : ∀ post ∈ later, post.expression.aggregates = [])
    (uncaptured : ∀ before a after, rest = before ++ a :: after →
      Sql.Uncaptured (arithmetic (later.take (posts.length + before.length))) a.expression) :
    ∀ k ∈ more, k ∈ made ∨ Occurs rest k.expression := by
  induction rest generalizing posts made with
  | nil => cases ran; exact fun k member => .inl member
  | cons a rest ih =>
      obtain ⟨next,further,first,ran⟩ := (Outcomes.state (List NamedAggregate)).of_bind ran
      have sources := derive_sources first
      obtain ⟨e,extended,-,-⟩ := derive_parts first
      obtain ⟨-,own,rfl,-,-⟩ := derive_run ran
      obtain ⟨here,below⟩ := places_cons.mp uncaptured
      have longer : next.length = posts.length + 1 := by simp [extended]
      have earlier : (next ++ own).take posts.length = posts := by simp [extended]
      rw [List.length_nil,Nat.add_zero,earlier] at here
      have later : ∀ before b after, rest = before ++ b :: after →
          Sql.Uncaptured (arithmetic ((next ++ own).take (next.length + before.length)))
            b.expression := by
        simpa only [longer,List.length_cons,Nat.add_assoc,Nat.add_comm 1] using below
      intro k member
      rcases ih ran later k member with known | ⟨b,listed,inside⟩
      · refine (sources k known).imp_right fun inside => ?_
        rw [inlinePosts_inline] at inside
        rcases Sql.aggregates_inline here inside with own | ⟨d,defined,brought⟩
        · exact ⟨a,List.mem_cons_self,own⟩
        · obtain ⟨post,early,rfl⟩ := List.mem_map.mp defined
          rw [plain post (by simp [extended,early])] at brought
          cases brought
      · exact .inr ⟨b,List.mem_cons_of_mem _ listed,inside⟩

theorem collect_sources {applies : List Apply} (unmentioned : Unmentioned applies) :
    ∀ k ∈ (collect applies).aggregates, Occurs applies k.expression := by
  have plain := (collect_arithmetic applies).2
  have uncaptured : ∀ done a rest, derivedOrder applies = done ++ a :: rest →
      Sql.Uncaptured (postsBefore applies done) a.expression := fun done a rest place =>
    (Sql.uncaptured_plain (postsBefore_plain applies done) _).mpr (unmentioned done a rest place)
  unfold postsBefore at uncaptured
  obtain ⟨posts,made,ran,whole⟩ := collect_run applies
  rw [whole] at plain uncaptured ⊢
  intro k member
  rcases List.mem_append.mp member with named | new
  · obtain ⟨a,listed,aggregate,rfl⟩ := bare_source named
    exact ⟨a,listed,by simp [aggregates_self aggregate]⟩
  · rcases run_sources ran plain (by simpa using uncaptured) k new with none | ⟨a,derived,inside⟩
    · cases none
    · exact ⟨a,(derivedOrder_source derived).1,inside⟩

theorem unmentioned_apart {applies : List Apply}
    (apart : ∀ a ∈ applies, ∀ x ∈ a.expression.aggregates, ∀ b ∈ derivedFrom applies,
      ¬ Mentions b.name x) : Unmentioned applies := by
  intro done a rest place d member x inside mentioned
  obtain ⟨post,early,rfl⟩ := List.mem_map.mp member
  have named : post.name ∈ (derivedOrder applies).map (·.name) := by
    rw [← (collect_arithmetic applies).1]
    exact List.mem_map_of_mem (List.mem_of_mem_take early)
  obtain ⟨b,listed,same⟩ := List.mem_map.mp named
  have source := derivedOrder_source listed
  have derived : b ∈ derivedFrom applies := by simp [derivedFrom,source]
  have own : a ∈ applies := (derivedOrder_source (place ▸ by simp)).1
  exact absurd (same ▸ mentioned) (apart a own x inside b derived)

-- Every aggregate that is collected is written in one of the applies, and writing out never goes
-- into an aggregate, exactly when no aggregate of a derived apply mentions one derived before it.
-- It is so when no aggregate is called on a column that a derived apply has the name of.
theorem collected_verbatim_exact (applies : List Apply) :
    (((∀ k ∈ (collect applies).aggregates, Occurs applies k.expression) ∧
        InlinesOutside applies) ↔ Unmentioned applies) ∧
    ((∀ a ∈ applies, ∀ x ∈ a.expression.aggregates, ∀ b ∈ derivedFrom applies,
      ¬ Mentions b.name x) → Unmentioned applies) := by
  refine ⟨⟨?_,?_⟩,unmentioned_apart⟩
  · exact fun kept => (inlinesOutside_exact applies).mp kept.2
  · exact fun unmentioned => ⟨collect_sources unmentioned,
      (inlinesOutside_exact applies).mpr unmentioned⟩

namespace Pages

def added : Expr :=
  .sum (.ref "data") (.ref "added")

def report (name : String) : List Apply :=
  [{ name,expression := .add added (.literal (.number 1)) },
   { name := "Twice",expression := .multiply added (.literal (.number 2)) }]

theorem report_aggregates {name : String} {a : Apply} (listed : a ∈ report name) :
    a.expression.aggregates = [added] := by
  rcases List.mem_cons.mp listed with rfl | later
  · rfl
  · cases List.mem_singleton.mp later; rfl

theorem report_verbatim :
    (∀ k ∈ (collect (report "More")).aggregates, Occurs (report "More") k.expression) ∧
      InlinesOutside (report "More") := by
  have exactly := collected_verbatim_exact (report "More")
  refine exactly.1.mpr (exactly.2 ?_)
  intro a listed x inside b derived mentioned
  rw [report_aggregates listed] at inside
  cases List.mem_singleton.mp inside
  have column : b.name = "data" ∨ b.name = "added" := by simpa [added] using mentioned
  have known : b.name ∈ ["More","Twice"] :=
    List.mem_map_of_mem (f := (·.name)) (List.mem_of_mem_filter derived)
  rcases column with same | same <;> simp [same] at known

-- Under the name of the column, the second sum is of the first result.
theorem sum_of_result :
    ∃ k ∈ (collect (report "added")).aggregates,
      k.expression = .sum (.ref "data") (.add (.ref "!T_0") (.literal (.number 1))) ∧
      ¬ Occurs (report "added") k.expression ∧ ¬ InlinesOutside (report "added") := by
  have collected : collect (report "added")
      = { aggregates :=
            [{ name := "!T_0",expression := added,synthetic := true },
             { name := "!T_1",synthetic := true,
               expression := .sum (.ref "data") (.add (.ref "!T_0") (.literal (.number 1))) }]
          postAggregates :=
            [{ name := "added",expression := .add (.ref "!T_0") (.literal (.number 1)) },
             { name := "Twice",
               expression := .multiply (.ref "!T_1") (.literal (.number 2)) }] } := rfl
  refine ⟨_,by rw [collected]; exact List.mem_cons_of_mem _ (List.mem_singleton.mpr rfl),rfl,?_,?_⟩
  · rintro ⟨a,listed,inside⟩
    rw [report_aggregates listed] at inside
    cases List.mem_singleton.mp inside
  · intro outside
    have kept := outside [_] _ [] (show derivedOrder (report "added") = _ from rfl)
    rw [postsBefore,collected] at kept
    have same := kept.1
    cases same

end Pages

end AggregateSet

end OlapQuery
