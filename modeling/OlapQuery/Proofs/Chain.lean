import OlapQuery.Binding
import OlapQuery.Proofs.Reading
import OlapQuery.Proofs.RowFilters

-- Chains as their steps. Every expression is a base or a step taken after another expression;
-- changing the base of a chain and narrowing the operand of its split are changes to the list
-- of its steps.

namespace OlapQuery

def Step.after : Step → Expr → Expr
  | .filter condition,e => .filter e condition
  | .split keys dataName,e => .split e keys dataName
  | .apply name x,e => .apply e name x
  | .sort key direction,e => .sort e key direction
  | .limit count,e => .limit e count

namespace Expr
open Step Binding

-- What a chain starts from has no steps of its own to change.
structure IsBase (e : Expr) : Prop where
  steps : e.chainSteps = []
  based : ∀ other, e.withChainBase other = other
  narrowed : ∀ p, narrow p e = .filter e p

theorem isBase_of_last {e : Expr} (last : e.lastStep? = none) : e.IsBase := by
  cases e with
  | unary op e => cases op <;> first | exact ⟨rfl,fun _ => rfl,fun _ => rfl⟩ | cases last
  | binary op e x => cases op <;> first | exact ⟨rfl,fun _ => rfl,fun _ => rfl⟩ | cases last
  | split e keys dataName => cases last
  | _ => exact ⟨rfl,fun _ => rfl,fun _ => rfl⟩

@[elab_as_elim]
theorem chain_induction {motive : Expr → Prop} (base : ∀ e, e.IsBase → motive e)
    (step : ∀ s e, motive e → motive (Step.after s e)) : ∀ e, motive e := by
  intro e
  induction e using Expr.structural with
  | literal v => exact base _ (isBase_of_last rfl)
  | ref name => exact base _ (isBase_of_last rfl)
  | ply => exact base _ (isBase_of_last rfl)
  | junction op es ih => exact base _ (isBase_of_last rfl)
  | split e keys dataName ih others => exact step (.split keys dataName) e ih
  | unary op e ih =>
      cases op with
      | limit count => exact step (.limit count) e ih
      | _ => exact base _ (isBase_of_last rfl)
  | binary op e x ih other =>
      cases op with
      | filter => exact step (.filter x) e ih
      | apply name => exact step (.apply name x) e ih
      | sort direction => exact step (.sort x direction) e ih
      | _ => exact base _ (isBase_of_last rfl)

@[simp] theorem chainSteps_after (s : Step) (e : Expr) :
    (s.after e).chainSteps = e.chainSteps ++ [s] := by
  cases s <;> simp [Step.after,chainSteps]

@[simp] theorem chainBase_after (s : Step) (e : Expr) : (s.after e).chainBase = e.chainBase := by
  cases s <;> simp [Step.after,chainBase]

@[simp] theorem withChainBase_after (s : Step) (e base : Expr) :
    (s.after e).withChainBase base = s.after (e.withChainBase base) := by
  cases s <;> simp [Step.after,withChainBase]

theorem narrow_after_split {s : Step} (split : s.isSplit = true) (p e : Expr) :
    narrow p (s.after e) = s.after (.filter e p) := by
  cases s with
  | split keys dataName => simp [Step.after,narrow]
  | _ => cases split

theorem narrow_after {s : Step} (other : s.isSplit = false) (p e : Expr) :
    narrow p (s.after e) = s.after (narrow p e) := by
  cases s with
  | split keys dataName => cases other
  | _ => simp [Step.after,narrow]

theorem chainSteps_withChainBase (e base : Expr) :
    (e.withChainBase base).chainSteps = base.chainSteps ++ e.chainSteps := by
  induction e using chain_induction with
  | base e isBase => rw [isBase.based,isBase.steps,List.append_nil]
  | step s e ih => simp [ih]

theorem chainBase_withChainBase (e base : Expr) :
    (e.withChainBase base).chainBase = base.chainBase := by
  induction e using chain_induction with
  | base e isBase => rw [isBase.based]
  | step s e ih => simp [ih]

theorem chainBase_narrow (p e : Expr) : (narrow p e).chainBase = e.chainBase := by
  induction e using chain_induction with
  | base e isBase => rw [isBase.narrowed]; rfl
  | step s e ih =>
      cases split : s.isSplit with
      | true => rw [narrow_after_split split]; simp [chainBase]
      | false => rw [narrow_after split]; simp [ih]

-- The condition is taken up right before the last split.
theorem narrow_parts (p e : Expr) :
    Unsplit e.chainSteps ∨
      ∃ before split after, split.isSplit = true ∧ Unsplit after ∧
        e.chainSteps = before ++ split :: after ∧
        (narrow p e).chainSteps = before ++ .filter p :: split :: after := by
  induction e using chain_induction with
  | base e isBase => rw [isBase.steps]; exact .inl (by simp [Unsplit])
  | step s e ih =>
      cases split : s.isSplit with
      | true =>
          refine .inr ⟨e.chainSteps,s,[],split,by simp [Unsplit],by simp,?_⟩
          rw [narrow_after_split split]; simp [chainSteps]
      | false =>
          have single : Unsplit [s] := by simp [Unsplit,split]
          rw [narrow_after split,chainSteps_after,chainSteps_after]
          rcases ih with unsplit | ⟨before,found,after,isSplit,later,steps,narrowed⟩
          · exact .inl (unsplit_append.mpr ⟨unsplit,single⟩)
          · refine .inr ⟨before,found,after ++ [s],isSplit,unsplit_append.mpr ⟨later,single⟩,?_,?_⟩
            · rw [steps]; simp
            · rw [narrowed]; simp

end Expr

end OlapQuery
