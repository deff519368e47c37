import OlapQuery.Proofs.Clauses
import OlapQuery.Proofs.Sameness

-- Why clauses go when a conjunction is simplified. A clause that was taken in can still give its
-- place up to a later one, so each clause that was met is accounted for by what is there now: by a
-- clause that is the same, or, if it is a membership, by an equality of its operand with a literal.
-- Equalities never give way, which is what keeps the second kind of account good.

namespace OlapQuery

namespace Expr

-- Clauses are accounted for by a clause that is the same, and memberships by an equality too.
def Accounted (kept : List Expr) (c : Expr) : Prop :=
  (∃ d ∈ kept, d = c ∨ d.same c = true) ∨
    ∃ x s y v, c = .member x s ∧ .is y (.literal v) ∈ kept ∧ y.same x = true

-- What clauses are simplified to: some of them, no two the same, that account for them all.
structure Simplified (clauses kept : List Expr) : Prop where
  included : ∀ c ∈ kept, c ∈ clauses
  distinct : kept.Pairwise fun a b => a.same b = false
  accounted : ∀ c ∈ clauses, Accounted kept c

section Step

variable {clauses next : List Expr} {clause c : Expr}

theorem accounted_listed (listed : c ∈ clauses) : Accounted clauses c :=
  .inl ⟨c,listed,.inl rfl⟩

theorem Accounted.subset (accounted : Accounted clauses c) (more : ∀ d ∈ clauses, d ∈ next) :
    Accounted next c := by
  rcases accounted with ⟨d,listed,alike⟩ | ⟨x,s,y,v,rfl,equality,alike⟩
  · exact .inl ⟨d,more d listed,alike⟩
  · exact .inr ⟨x,s,y,v,rfl,more _ equality,alike⟩

-- A membership gave way to an equality; what is the same as it is a membership of that operand.
theorem accounted_narrowed {old e : Expr} {v : Value} (membership : isMembershipOf e old = true)
    (alike : old = c ∨ old.same c = true) (equality : .is e (.literal v) ∈ next) :
    Accounted next c := by
  obtain ⟨y,s,rfl,operand⟩ := membership_parts membership
  have back : e.same y = true := by rwa [same_comm]
  rcases alike with rfl | alike
  · exact .inr ⟨y,s,e,v,rfl,equality,back⟩
  · cases c with
    | binary op x t =>
        simp only [same,Bool.and_eq_true,beq_iff_eq] at alike
        obtain ⟨⟨rfl,through⟩,-⟩ := alike
        exact .inr ⟨x,t,e,v,rfl,equality,same_trans back through⟩
    | _ => cases alike

theorem Accounted.step (accounted : Accounted clauses c) (step : Added clauses clause next) :
    Accounted next c := by
  cases step with
  | repeated earlier alike => exact accounted
  | shadowed membership earlier equality => exact accounted
  | appended => exact accounted.subset fun d listed => List.mem_append_left _ listed
  | @narrowed e v before old after equality there membership =>
      subst there equality
      have here : .is e (.literal v) ∈ before ++ .is e (.literal v) :: after := by simp
      rcases accounted with ⟨d,listed,alike⟩ | ⟨x,s,y,u,rfl,other,alike⟩
      · rcases List.mem_append.mp listed with early | behind
        · exact .inl ⟨d,List.mem_append_left _ early,alike⟩
        · rcases List.mem_cons.mp behind with rfl | late
          · exact accounted_narrowed membership alike here
          · exact .inl ⟨d,by simp [late],alike⟩
      · refine .inr ⟨x,s,y,u,rfl,?_,alike⟩
        rcases List.mem_append.mp other with early | behind
        · exact List.mem_append_left _ early
        · rcases List.mem_cons.mp behind with rfl | late
          · cases membership
          · simp [late]

theorem added_accounted (step : Added clauses clause next) : Accounted next clause := by
  cases step with
  | repeated earlier alike => exact .inl ⟨_,earlier,.inr alike⟩
  | narrowed equality there membership => exact accounted_listed (by simp)
  | @shadowed e s c membership earlier equality =>
      obtain ⟨x,v,rfl,alike⟩ := equality_parts equality
      exact .inr ⟨e,s,x,v,membership,earlier,alike⟩
  | appended => exact accounted_listed (by simp)

theorem addClause_distinct (clause : Expr)
    (distinct : clauses.Pairwise fun a b => a.same b = false) :
    (addClause clauses clause).Pairwise fun a b => a.same b = false := by
  by_cases present : clauses.any (fun c => c.same clause) = true
  · unfold addClause
    rwa [if_pos present]
  · have fresh : ∀ c ∈ clauses, c.same clause = false := by simpa using present
    generalize grown : addClause clauses clause = next
    cases grown ▸ addClause_added clauses clause with
    | repeated earlier alike => exact distinct
    | shadowed membership earlier equality => exact distinct
    | appended =>
        refine List.pairwise_append.mpr ⟨distinct,List.pairwise_singleton _ _,?_⟩
        exact fun c listed d last => List.mem_singleton.mp last ▸ fresh c listed
    | @narrowed e v before old after equality there membership =>
        subst there
        obtain ⟨early,late,apart⟩ := List.pairwise_append.mp distinct
        refine List.pairwise_append.mpr ⟨early,List.pairwise_cons.mpr ⟨?_,late.of_cons⟩,?_⟩
        · intro d listed
          rw [same_comm]
          exact fresh d (by simp [listed])
        · intro c listed d behind
          rcases List.mem_cons.mp behind with rfl | later
          · exact fresh c (by simp [listed])
          · exact apart c listed d (List.mem_cons_of_mem _ later)

theorem Simplified.step {met kept : List Expr} (simplified : Simplified met kept) (clause : Expr) :
    Simplified (met ++ [clause]) (addClause kept clause) := by
  have step := addClause_added kept clause
  refine ⟨fun c listed => ?_,addClause_distinct clause simplified.distinct,?_⟩
  · exact List.mem_append.mpr ((List.mem_append.mp (added_subset step c listed)).imp_left
      (simplified.included c))
  · rw [List.forall_mem_append,List.forall_mem_singleton]
    exact ⟨fun c listed => (simplified.accounted c listed).step step,added_accounted step⟩

end Step

theorem foldl_addClause_simplified {met kept : List Expr} (simplified : Simplified met kept)
    (rest : List Expr) : Simplified (met ++ rest) (rest.foldl addClause kept) := by
  induction rest generalizing met kept with
  | nil => rwa [List.append_nil]
  | cons clause rest ih =>
      rw [List.append_cons]
      exact ih (simplified.step clause)

theorem simplified_short {clauses : List Expr} (short : clauses.length ≤ 1) :
    Simplified clauses clauses := by
  refine ⟨fun c listed => listed,?_,fun c => accounted_listed⟩
  match clauses,short with
  | [],_ => exact .nil
  | [only],_ => exact List.pairwise_singleton _ _

theorem conjuncts_andAll {clauses : List Expr} (plain : ∀ c ∈ clauses, c.IsClause) :
    (andAll clauses).conjuncts? = some clauses := by
  rw [← conjunctsAll_singleton,conjunctsAll_andAll,conjunctsAll_opened plain]

theorem simplifyAnd_simplified {e : Expr} {clauses : List Expr}
    (opened : e.conjuncts? = some clauses) :
    ∃ kept, e.simplifyAnd.conjuncts? = some kept ∧ Simplified clauses kept := by
  have found : conjunctsAll? [e] = some clauses := by rwa [conjunctsAll_singleton]
  unfold simplifyAnd
  split
  · rename_i cs built
    cases found.symm.trans (andAll_clauses built)
    have start : Simplified [] [] := simplified_short (Nat.zero_le 1)
    have simplified := foldl_addClause_simplified start clauses
    exact ⟨_,conjuncts_andAll fun c kept =>
      conjuncts_clauses e clauses opened c (simplified.included c kept),simplified⟩
  · rename_i other
    refine ⟨clauses,?_,simplified_short (andAll_single found other)⟩
    rw [← conjunctsAll_singleton,conjunctsAll_andAll,found]

end Expr

open OlapQuery.Expr

-- Of the clauses that an expression opens into, its simplified form has some, no two of them the
-- same, and each that it lacks is the same as one that it has, or a membership whose operand one
-- of these equates with a literal. So it holds wherever the expression does.
theorem simplification_drops_shadowed {e : Expr} {clauses : List Expr}
    (opened : e.conjuncts? = some clauses) :
    (∃ kept, e.simplifyAnd.conjuncts? = some kept ∧ Simplified clauses kept) ∧
    ∀ {ρ : Type u} (S : Reading ρ) (row : ρ), S.holds row e → S.holds row e.simplifyAnd := by
  obtain ⟨kept,left,simplified⟩ := simplifyAnd_simplified opened
  refine ⟨⟨kept,left,simplified⟩,fun S row held => (S.opened row _).mpr ⟨kept,left,?_⟩⟩
  obtain ⟨found,same,each⟩ := (S.opened row e).mp held
  cases opened.symm.trans same
  exact fun c listed => each c (simplified.included c listed)

namespace Gems

def color : Expr := .ref "color"

def someColors : Value := .set .string [.string "D",.string "E"]

def wanted : List Expr :=
  [.member color (.literal someColors),.is (.ref "cut") (.literal (.string "Good")),
    .is color (.literal (.string "D")),.is (.ref "cut") (.literal (.string "Good"))]

theorem wanted_simplified : (Expr.and wanted).conjuncts? = some wanted ∧
    (Expr.and wanted).simplifyAnd = .and [.is color (.literal (.string "D")),
      .is (.ref "cut") (.literal (.string "Good"))] ∧
    (∃ kept, (Expr.and wanted).simplifyAnd.conjuncts? = some kept ∧ Simplified wanted kept) ∧
    ∀ {ρ : Type u} (S : Reading ρ) (row : ρ), S.holds row (.and wanted) →
      S.holds row (Expr.and wanted).simplifyAnd :=
  ⟨rfl,rfl,simplification_drops_shadowed rfl⟩

end Gems

end OlapQuery
