import OlapQuery.Proofs.Outermost

-- Sameness of expressions. It compares numbers as numbers, so a number that is none differs from
-- itself and the two zeros do not differ; but it does not matter which side is compared with which,
-- and what is the same as a third thing is the same.

namespace OlapQuery

open Float.Model (UnpackedFloat)

theorem compare_opposite (a b : UnpackedFloat) : b.compare a = (a.compare b).map Ordering.swap := by
  cases a with
  | notANumber => cases b <;> rfl
  | infinity s =>
      cases b with
      | infinity t => cases s <;> cases t <;> rfl
      | notANumber => rfl
      | zero t => cases s <;> rfl
      | finite t m e positive => cases s <;> rfl
  | zero s =>
      cases b with
      | infinity t => cases t <;> rfl
      | notANumber => rfl
      | zero t => rfl
      | finite t m e positive => cases t <;> rfl
  | finite s m e positive =>
      cases b with
      | infinity t => cases t <;> rfl
      | notANumber => rfl
      | zero t => cases s <;> rfl
      | finite t n f other =>
          have exponents : compare f e = (compare e f).swap := Std.OrientedCmp.eq_swap
          have mantissas : compare n m = (compare m n).swap := Std.OrientedCmp.eq_swap
          cases s <;> cases t <;> unfold UnpackedFloat.compare <;>
            simp [exponents,mantissas,Ordering.swap_then]

theorem float_same_comm (a b : Float) : (a == b) = (b == a) := by
  have opposite := compare_opposite b.toModel.unpack a.toModel.unpack
  change (a.toModel.unpack.compare b.toModel.unpack == some .eq)
    = (b.toModel.unpack.compare a.toModel.unpack == some .eq)
  rw [opposite]
  cases b.toModel.unpack.compare a.toModel.unpack with
  | none => rfl
  | some order => cases order <;> rfl

theorem compare_same {a b : UnpackedFloat} (same : a.compare b = some .eq) :
    (∃ s t, a = .zero s ∧ b = .zero t) ∨ a = b := by
  cases a with
  | notANumber => cases b <;> cases same
  | infinity s =>
      cases b with
      | infinity t => cases s <;> cases t <;> first | exact .inr rfl | cases same
      | notANumber => cases same
      | zero t => cases s <;> cases same
      | finite t m e positive => cases s <;> cases same
  | zero s =>
      cases b with
      | infinity t => cases t <;> cases same
      | notANumber => cases same
      | zero t => exact .inl ⟨s,t,rfl,rfl⟩
      | finite t m e positive => cases t <;> cases same
  | finite s m e positive =>
      cases b with
      | infinity t => cases t <;> cases same
      | notANumber => cases same
      | zero t => cases s <;> cases same
      | finite t n f other =>
          have equal : (compare e f).then (compare m n) = .eq → e = f ∧ m = n := by
            simp only [Ordering.then_eq_eq,Std.compare_eq_iff_eq]
            exact id
          cases s <;> cases t
          · obtain ⟨rfl,rfl⟩ := equal (Ordering.swap_eq_eq.mp (Option.some.inj same))
            exact .inr rfl
          · cases same
          · cases same
          · obtain ⟨rfl,rfl⟩ := equal (Option.some.inj same)
            exact .inr rfl

theorem float_same_trans {a b c : Float} (first : (a == b) = true) (second : (b == c) = true) :
    (a == c) = true := by
  change (a.toModel.unpack.compare b.toModel.unpack == some .eq) = true at first
  change (b.toModel.unpack.compare c.toModel.unpack == some .eq) = true at second
  change (a.toModel.unpack.compare c.toModel.unpack == some .eq) = true
  rcases compare_same (beq_iff_eq.mp first) with ⟨s,t,left,middle⟩ | equal
  · rcases compare_same (beq_iff_eq.mp second) with ⟨u,v,-,right⟩ | equal
    · rw [left,right]; rfl
    · rw [left,← equal,middle]; rfl
  · rwa [equal]

namespace Value

theorem sameBound_comm (a b : Option Float) : sameBound a b = sameBound b a := by
  cases a <;> cases b <;> simp [sameBound,float_same_comm]

mutual
theorem same_comm (a b : Value) : a.same b = b.same a := by
  cases a with
  | null => cases b <;> rfl
  | boolean x => cases b <;> first | rfl | exact BEq.comm
  | number x => cases b <;> first | rfl | exact float_same_comm _ _
  | string x => cases b <;> first | rfl | exact BEq.comm
  | time x => cases b <;> first | rfl | exact BEq.comm
  | timeRange x => cases b <;> first | rfl | exact BEq.comm
  | numberRange x => cases b <;> first | rfl | simp only [same,sameBound_comm]
  | set s as =>
      cases b with
      | set t bs =>
          have types : (s == t) = (t == s) := BEq.comm
          rw [same,same,sameAll_comm as bs,types]
      | _ => rfl

theorem sameAll_comm (as bs : List Value) : sameAll as bs = sameAll bs as := by
  cases as with
  | nil => cases bs <;> rfl
  | cons a as =>
      cases bs with
      | nil => rfl
      | cons b bs => rw [sameAll,sameAll,same_comm a b,sameAll_comm as bs]
end

theorem sameBound_trans {a b c : Option Float} (first : sameBound a b = true)
    (second : sameBound b c = true) : sameBound a c = true := by
  cases a with
  | none => cases b <;> first | exact second | cases first
  | some x =>
      cases b with
      | none => cases first
      | some y =>
          cases c with
          | none => cases second
          | some z => exact float_same_trans first second

mutual
theorem same_trans (a : Value) :
    ∀ {b c : Value}, a.same b = true → b.same c = true → a.same c = true := by
  intro b c first second
  cases a with
  | null => cases b <;> cases first; exact second
  | boolean x => cases b <;> first | cases first | rwa [beq_iff_eq.mp first]
  | number x =>
      cases b with
      | number y =>
          cases c with
          | number z => exact float_same_trans first second
          | _ => cases second
      | _ => cases first
  | string x => cases b <;> first | cases first | rwa [beq_iff_eq.mp first]
  | time x => cases b <;> first | cases first | rwa [beq_iff_eq.mp first]
  | timeRange x => cases b <;> first | cases first | rwa [beq_iff_eq.mp first]
  | numberRange x =>
      cases b with
      | numberRange y =>
          cases c with
          | numberRange z =>
              simp only [same,Bool.and_eq_true] at first second ⊢
              exact ⟨sameBound_trans first.1 second.1,sameBound_trans first.2 second.2⟩
          | _ => cases second
      | _ => cases first
  | set s as =>
      cases b with
      | set t bs =>
          cases c with
          | set u cs =>
              simp only [same,Bool.and_eq_true,beq_iff_eq] at first second ⊢
              exact ⟨first.1.trans second.1,sameAll_trans as first.2 second.2⟩
          | _ => cases second
      | _ => cases first
termination_by structural a

theorem sameAll_trans (as : List Value) : ∀ {bs cs : List Value},
    sameAll as bs = true → sameAll bs cs = true → sameAll as cs = true := by
  intro bs cs first second
  cases as with
  | nil => cases bs <;> cases first; exact second
  | cons a as =>
      cases bs with
      | nil => cases first
      | cons b bs =>
          cases cs with
          | nil => cases second
          | cons c cs =>
              simp only [sameAll,Bool.and_eq_true] at first second ⊢
              exact ⟨same_trans a first.1 second.1,sameAll_trans as first.2 second.2⟩
termination_by structural as
end

end Value

theorem UnaryOp.same_cases {a b : UnaryOp} (alike : a.same b = true) :
    a = b ∨ ∃ s o t p, a = .numberBucket s o ∧ b = .numberBucket t p ∧ (s == t) = true ∧
      (o == p) = true := by
  unfold same at alike
  split at alike
  case h_14 => exact .inr ⟨_,_,_,_,rfl,rfl,Bool.and_eq_true_iff.mp alike⟩
  case h_16 => cases alike
  all_goals exact .inl (by simp_all)

theorem UnaryOp.same_comm (op other : UnaryOp) : op.same other = other.same op := by
  have turn {a b : UnaryOp} (alike : a.same b = true) : b.same a = true := by
    rcases same_cases alike with rfl | ⟨s,o,t,p,rfl,rfl,sizes,offsets⟩
    · exact alike
    · rw [same,float_same_comm t s,float_same_comm p o,sizes,offsets]
      rfl
  exact Bool.eq_iff_iff.mpr ⟨turn,turn⟩

theorem UnaryOp.same_trans {a b c : UnaryOp} (first : a.same b = true) (second : b.same c = true) :
    a.same c = true := by
  rcases same_cases first with rfl | ⟨s,o,t,p,rfl,rfl,sizes,offsets⟩
  · exact second
  · rcases same_cases second with rfl | ⟨t',p',u,q,shared,rfl,others,later⟩
    · exact first
    · cases shared
      rw [same,float_same_trans sizes others,float_same_trans offsets later]
      rfl

namespace Expr

theorem sameAll_comm {as : List Expr} (each : ∀ a ∈ as, ∀ b, a.same b = b.same a) (bs : List Expr) :
    sameAll as bs = sameAll bs as := by
  induction as generalizing bs with
  | nil => cases bs <;> rfl
  | cons a rest ih =>
      cases bs with
      | nil => rfl
      | cons b others =>
          rw [sameAll,sameAll,each a List.mem_cons_self b,
            ih (fun a member => each a (List.mem_cons_of_mem _ member))]

theorem sameKeys_comm {as : List (String × Expr)}
    (each : ∀ key ∈ as, ∀ b, key.2.same b = b.same key.2) (bs : List (String × Expr)) :
    sameKeys as bs = sameKeys bs as := by
  induction as generalizing bs with
  | nil => cases bs <;> rfl
  | cons a rest ih =>
      cases bs with
      | nil => rfl
      | cons b others =>
          have names : (a.1 == b.1) = (b.1 == a.1) := BEq.comm
          rw [sameKeys,sameKeys,each a List.mem_cons_self b.2,names,
            ih (fun a member => each a (List.mem_cons_of_mem _ member))]

theorem same_comm (a b : Expr) : a.same b = b.same a := by
  induction a using Expr.structural generalizing b with
  | literal v => cases b <;> first | rfl | exact Value.same_comm _ _
  | ref name => cases b <;> first | rfl | exact BEq.comm
  | ply => cases b <;> rfl
  | unary op e ih =>
      cases b with
      | unary other f => rw [same,same,UnaryOp.same_comm,ih]
      | _ => rfl
  | binary op e x left right =>
      cases b with
      | binary other f y =>
          have ops : (op == other) = (other == op) := BEq.comm
          rw [same,same,ops,left,right]
      | _ => rfl
  | junction op es ih =>
      cases b with
      | junction other fs =>
          have ops : (op == other) = (other == op) := BEq.comm
          rw [same,same,ops,sameAll_comm ih]
      | _ => rfl
  | split e keys dataName ih others =>
      cases b with
      | split f ls other =>
          have names : (dataName == other) = (other == dataName) := BEq.comm
          rw [same,same,names,ih,sameKeys_comm others]
      | _ => rfl

theorem sameAll_trans {as bs cs : List Expr}
    (each : ∀ a ∈ as, ∀ b c, a.same b = true → b.same c = true → a.same c = true)
    (first : sameAll as bs = true) (second : sameAll bs cs = true) : sameAll as cs = true := by
  induction as generalizing bs cs with
  | nil => cases bs <;> first | exact second | cases first
  | cons a rest ih =>
      cases bs with
      | nil => cases first
      | cons b others =>
          cases cs with
          | nil => cases second
          | cons c last =>
              simp only [sameAll,Bool.and_eq_true] at first second ⊢
              exact ⟨each a List.mem_cons_self b c first.1 second.1,
                ih (fun a member => each a (List.mem_cons_of_mem _ member)) first.2 second.2⟩

theorem sameKeys_trans {as bs cs : List (String × Expr)}
    (each : ∀ key ∈ as, ∀ b c, key.2.same b = true → b.same c = true → key.2.same c = true)
    (first : sameKeys as bs = true) (second : sameKeys bs cs = true) : sameKeys as cs = true := by
  induction as generalizing bs cs with
  | nil => cases bs <;> first | exact second | cases first
  | cons a rest ih =>
      cases bs with
      | nil => cases first
      | cons b others =>
          cases cs with
          | nil => cases second
          | cons c last =>
              simp only [sameKeys,Bool.and_eq_true,beq_iff_eq] at first second ⊢
              exact ⟨⟨first.1.1.trans second.1.1,
                  each a List.mem_cons_self b.2 c.2 first.1.2 second.1.2⟩,
                ih (fun a member => each a (List.mem_cons_of_mem _ member)) first.2 second.2⟩

theorem same_trans {a b c : Expr} (first : a.same b = true) (second : b.same c = true) :
    a.same c = true := by
  induction a using Expr.structural generalizing b c with
  | literal v =>
      cases b with
      | literal u =>
          cases c with
          | literal w => exact Value.same_trans v first second
          | _ => cases second
      | _ => cases first
  | ref name => cases b <;> first | cases first | rwa [beq_iff_eq.mp first]
  | ply => cases b <;> cases first; exact second
  | unary op e ih =>
      cases b with
      | unary other f =>
          cases c with
          | unary last g =>
              simp only [same,Bool.and_eq_true] at first second ⊢
              exact ⟨UnaryOp.same_trans first.1 second.1,ih first.2 second.2⟩
          | _ => cases second
      | _ => cases first
  | binary op e x left right =>
      cases b with
      | binary other f y =>
          cases c with
          | binary last g z =>
              simp only [same,Bool.and_eq_true,beq_iff_eq] at first second ⊢
              exact ⟨⟨first.1.1.trans second.1.1,left first.1.2 second.1.2⟩,
                right first.2 second.2⟩
          | _ => cases second
      | _ => cases first
  | junction op es ih =>
      cases b with
      | junction other fs =>
          cases c with
          | junction last gs =>
              simp only [same,Bool.and_eq_true,beq_iff_eq] at first second ⊢
              exact ⟨first.1.trans second.1,
                sameAll_trans (fun a member b c => ih a member) first.2 second.2⟩
          | _ => cases second
      | _ => cases first
  | split e keys dataName ih others =>
      cases b with
      | split f ls other =>
          cases c with
          | split g ms last =>
              simp only [same,Bool.and_eq_true,beq_iff_eq] at first second ⊢
              exact ⟨⟨first.1.1.trans second.1.1,ih first.1.2 second.1.2⟩,
                sameKeys_trans (fun key member b c => others key member) first.2 second.2⟩
          | _ => cases second
      | _ => cases first

theorem sameAll_forall (as bs : List Expr) :
    sameAll as bs = true ↔ List.Forall₂ (fun a b => a.same b = true) as bs := by
  induction as generalizing bs with
  | nil => cases bs <;> simp [sameAll]
  | cons a rest ih => cases bs <;> simp [sameAll,ih]

theorem sameKeys_forall (as bs : List (String × Expr)) :
    sameKeys as bs = true ↔ as.map (·.1) = bs.map (·.1) ∧
      List.Forall₂ (fun a b => a.same b = true) (as.map (·.2)) (bs.map (·.2)) := by
  induction as generalizing bs with
  | nil => cases bs <;> simp [sameKeys]
  | cons a rest ih =>
      cases bs with
      | nil => simp [sameKeys]
      | cons b others => simp only [sameKeys,Bool.and_eq_true,beq_iff_eq,ih,List.map_cons,
          List.cons.injEq,List.forall₂_cons]; exact and_and_and_comm

-- The second is the first, or the same as it.
def Alike (a b : Expr) : Prop :=
  b = a ∨ b.same a = true

theorem UpTo.same_of_alike {e e' : Expr} (upTo : UpTo Alike e e') (itself : e.same e = true) :
    e'.same e = true := by
  have all : ∀ {es fs : List Expr}, sameAll es es = true →
      List.Forall₂ (fun e f => e.same e = true → f.same e = true) es fs → sameAll fs es = true := by
    intro es fs themselves each
    have refl := List.forall₂_same.mp ((sameAll_forall es es).mp themselves)
    refine (sameAll_forall fs es).mpr (List.Forall₂.flip ?_)
    exact forall_related each fun e member f same => same (refl e member)
  revert itself
  apply upTo.structural (motive := fun e e' => e.same e = true → e'.same e = true)
  case aggregate =>
      rintro a b - (rfl | same) itself
      · exact itself
      · exact same
  case literal => intro v itself; exact itself
  case ref => intro name itself; exact itself
  case ply => intro itself; exact itself
  case unary =>
      intro op e f plain operand itself
      simp only [same,Bool.and_eq_true] at itself ⊢
      exact ⟨itself.1,operand itself.2⟩
  case binary =>
      intro op e f x y plain operand expression itself
      simp only [same,Bool.and_eq_true] at itself ⊢
      exact ⟨⟨itself.1.1,operand itself.1.2⟩,expression itself.2⟩
  case junction =>
      intro op es fs operands itself
      simp only [same,Bool.and_eq_true] at itself ⊢
      exact ⟨itself.1,all itself.2 operands⟩
  case split =>
      intro e f ks ls dataName operand names keys itself
      simp only [same,Bool.and_eq_true,sameKeys_forall] at itself ⊢
      refine ⟨⟨itself.1.1,operand itself.1.2⟩,names.symm,?_⟩
      rw [← sameAll_forall] at itself ⊢
      exact all itself.2.2 keys

end Expr

end OlapQuery
