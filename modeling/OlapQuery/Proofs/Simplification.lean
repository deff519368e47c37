import OlapQuery.Proofs.Reading

-- Dropping clauses of a conjunction. Adding a clause to simplified ones can drop it or put it
-- in the place of another; which of these happens depends on the order in which equalities and
-- memberships over one operand arrive. Whatever the order, the clauses that remain ask the same
-- of a row, but for one thing: nobody compares the literal of an equality with the set or range
-- of a membership that gives way to it.

namespace OlapQuery

namespace Expr

theorem membership_parts {target c : Expr} (found : isMembershipOf target c = true) :
    ∃ y s, c = .member y s ∧ y.same target = true := by
  unfold isMembershipOf at found
  split at found
  · exact ⟨_,_,rfl,found⟩
  · cases found

theorem equality_parts {target c : Expr} (found : isEqualityOf target c = true) :
    ∃ x v, c = .is x (.literal v) ∧ x.same target = true := by
  unfold isEqualityOf at found
  split at found
  · exact ⟨_,_,rfl,found⟩
  · cases found

theorem replaceFirst_parts {test : Expr → Bool} {clause : Expr} {clauses replaced : List Expr}
    (found : replaceFirst test clause clauses = some replaced) :
    ∃ before old after, clauses = before ++ old :: after ∧ test old = true ∧
      replaced = before ++ clause :: after := by
  induction clauses generalizing replaced with
  | nil => cases found
  | cons head rest ih =>
      unfold replaceFirst at found
      split at found
      · rename_i passes
        cases found
        exact ⟨[],head,rest,rfl,passes,rfl⟩
      · obtain ⟨tail,foundTail,rfl⟩ := Option.map_eq_some_iff.mp found
        obtain ⟨before,old,after,rfl,passes,rfl⟩ := ih foundTail
        exact ⟨head :: before,old,after,rfl,passes,rfl⟩

-- Everything that adding a clause can do.
inductive Added (clauses : List Expr) (clause : Expr) : List Expr → Prop where
  | repeated (earlier : c ∈ clauses) (alike : c.same clause = true) : Added clauses clause clauses
  | narrowed (equality : clause = .is e (.literal v)) (there : clauses = before ++ old :: after)
      (membership : isMembershipOf e old = true) : Added clauses clause (before ++ clause :: after)
  | shadowed (membership : clause = .member e s) (earlier : c ∈ clauses)
      (equality : isEqualityOf e c = true) : Added clauses clause clauses
  | appended : Added clauses clause (clauses ++ [clause])

theorem addClause_added (clauses : List Expr) (clause : Expr) :
    Added clauses clause (addClause clauses clause) := by
  unfold addClause
  split
  · rename_i present
    obtain ⟨c,member,alike⟩ := List.any_eq_true.mp present
    exact .repeated member alike
  · split
    · rename_i e v _
      cases found : replaceFirst (isMembershipOf e) (.is e (.literal v)) clauses with
      | none => exact .appended
      | some replaced =>
          obtain ⟨before,old,after,there,membership,rfl⟩ := replaceFirst_parts found
          exact .narrowed rfl there membership
    · split
      · rename_i present
        obtain ⟨c,member,equality⟩ := List.any_eq_true.mp present
        exact .shadowed rfl member equality
      · exact .appended
    · exact .appended

theorem added_subset {clauses next : List Expr} {clause : Expr} (step : Added clauses clause next) :
    ∀ c ∈ next, c ∈ clauses ++ [clause] := by
  intro c member
  cases step with
  | repeated earlier alike => exact List.mem_append_left _ member
  | narrowed equality there membership =>
      subst there
      simp only [List.mem_append,List.mem_cons] at member ⊢
      rcases member with early | here | late
      · exact .inl (.inl early)
      · exact .inr (.inl here)
      · exact .inl (.inr (.inr late))
  | shadowed membership earlier equality => exact List.mem_append_left _ member
  | appended => exact member

end Expr

namespace ValueReading
open OlapQuery.Expr

variable {ρ : Type u} {α : Type v} (S : ValueReading ρ α) (row : ρ)

-- The literal of every equality lies inside what a membership of the same operand asks for.
def Compatible (clauses : List Expr) : Prop :=
  ∀ x v y s, .is x (.literal v) ∈ clauses → .member y s ∈ clauses →
    (x.same y = true ∨ y.same x = true) → S.inside row (S.constant v) s

variable {S row}

theorem Compatible.subset {clauses fewer : List Expr} (compatible : S.Compatible row clauses)
    (included : ∀ c ∈ fewer, c ∈ clauses) : S.Compatible row fewer := by
  intro x v y s equality membership alike
  exact compatible x v y s (included _ equality) (included _ membership) alike

theorem inside_exact {x y s : Expr} {v : Value} (equality : S.holds row (.is x (.literal v)))
    (alike : x.same y = true ∨ y.same x = true) :
    S.holds row (.member y s) ↔ S.inside row (S.constant v) s := by
  have equal : S.value row y = S.value row x := by
    rcases alike with forward | backward
    · exact (S.value_same row x y forward).symm
    · exact S.value_same row y x backward
  rw [S.holds_member,equal,(S.holds_is row x v).mp equality]

theorem compatible_of_holds {clauses : List Expr} (held : ∀ c ∈ clauses, S.holds row c) :
    S.Compatible row clauses := by
  intro x v y s equality membership alike
  exact (inside_exact (held _ equality) alike).mp (held _ membership)

-- One step: what remains, with the literals where the memberships want them, asks for what was
-- there and for the clause that was added.
theorem added_holds {clauses next : List Expr} {clause : Expr} (step : Added clauses clause next)
    (compatible : S.Compatible row (clauses ++ [clause])) (held : ∀ c ∈ next, S.holds row c) :
    ∀ c ∈ clauses ++ [clause], S.holds row c := by
  rw [List.forall_mem_append,List.forall_mem_singleton]
  cases step with
  | @repeated c earlier alike =>
      exact ⟨held,(S.holds_same row c clause alike).mp (held c earlier)⟩
  | @narrowed e v before old after equality there membership =>
      subst there equality
      obtain ⟨y,s,rfl,alike⟩ := membership_parts membership
      have holdsEquality : S.holds row (.is e (.literal v)) := held _ (by simp)
      have lies : S.inside row (S.constant v) s :=
        compatible e v y s (by simp) (by simp) (.inr alike)
      refine ⟨?_,holdsEquality⟩
      intro c member
      rcases List.mem_append.mp member with early | later
      · exact held c (List.mem_append_left _ early)
      · rcases List.mem_cons.mp later with rfl | late
        · exact (inside_exact holdsEquality (.inr alike)).mpr lies
        · exact held c (List.mem_append_right _ (List.mem_cons_of_mem _ late))
  | @shadowed e s c membership earlier equality =>
      subst membership
      obtain ⟨x,v,rfl,alike⟩ := equality_parts equality
      have lies : S.inside row (S.constant v) s :=
        compatible x v e s (List.mem_append_left _ earlier) (by simp) (.inl alike)
      exact ⟨held,(inside_exact (held _ earlier) (.inl alike)).mpr lies⟩
  | appended => exact List.forall_mem_append.mp held |>.imp_right List.forall_mem_singleton.mp

theorem added_all_holds (clauses rest : List Expr) :
    (∀ c ∈ clauses ++ rest, S.holds row c) ↔
      (∀ c ∈ rest.foldl addClause clauses, S.holds row c) ∧ S.Compatible row (clauses ++ rest) := by
  induction rest generalizing clauses with
  | nil =>
      rw [List.append_nil]
      exact ⟨fun held => ⟨held,compatible_of_holds held⟩,And.left⟩
  | cons clause rest ih =>
      have step := addClause_added clauses clause
      have regroup : clauses ++ clause :: rest = (clauses ++ [clause]) ++ rest := by simp
      rw [List.foldl_cons]
      constructor
      · intro held
        refine ⟨((ih _).mp ?_).1,compatible_of_holds held⟩
        intro c member
        apply held c
        rw [regroup]
        rcases List.mem_append.mp member with early | late
        · exact List.mem_append_left _ (added_subset step c early)
        · exact List.mem_append_right _ late
      · rintro ⟨held,compatible⟩
        rw [regroup] at compatible ⊢
        have fewer : S.Compatible row (addClause clauses clause ++ rest) := by
          refine compatible.subset (fun c member => ?_)
          rcases List.mem_append.mp member with early | late
          · exact List.mem_append_left _ (added_subset step c early)
          · exact List.mem_append_right _ late
        obtain ⟨next,others⟩ := List.forall_mem_append.mp ((ih _).mpr ⟨held,fewer⟩)
        have first := compatible.subset (fun c member => List.mem_append_left rest member)
        exact List.forall_mem_append.mpr ⟨added_holds step first next,others⟩

theorem compatible_short {clauses : List Expr} (short : clauses.length ≤ 1) :
    S.Compatible row clauses := by
  intro x v y s equality membership alike
  match clauses,short with
  | [],_ => cases equality
  | [only],_ =>
      have first := List.mem_singleton.mp equality
      have second := List.mem_singleton.mp membership
      rw [← first] at second; cases second

variable (S row) in
-- The same of conditions that still have to be opened into their clauses.
def Consistent (es : List Expr) : Prop :=
  ∀ clauses, conjunctsAll? es = some clauses → S.Compatible row clauses

-- Simplified, an expression holds of the rows of which it held, and of those that satisfy what
-- is left of it while some literal lies outside a membership that gave way.
theorem holds_simplifyAnd (e : Expr) :
    S.holds row e ↔ S.holds row e.simplifyAnd ∧ S.Consistent row [e] := by
  have whole : S.holds row e ↔ ∀ c ∈ [e], S.holds row c := by simp
  unfold simplifyAnd
  split
  · rename_i clauses built
    have found := andAll_clauses built
    have opened : S.holds row e ↔ ∀ c ∈ [] ++ clauses, S.holds row c := by
      rw [whole,S.toReading.holds_clauses,found]; simp
    rw [opened,added_all_holds,S.toReading.holds_andAll]
    simp [Consistent,found]
  · rename_i other
    rw [S.toReading.holds_andAll,whole]
    refine ⟨fun held => ⟨held,?_⟩,And.left⟩
    intro clauses found
    exact compatible_short (andAll_single found other)

end ValueReading

end OlapQuery
