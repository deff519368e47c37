import Mathlib.Data.List.Forall2
import OlapQuery.Proofs.Inlining

-- Expressions seen from outside of their aggregates. What is done to the outermost aggregates of
-- an expression, one after the other, leaves everything around them as it is; and the names that
-- stand around them can be replaced all at once.

namespace OlapQuery.Expr

-- The second expression is the first with something in place of each outermost aggregate.
inductive UpTo (related : Expr → Expr → Prop) : Expr → Expr → Prop where
  | aggregate (outermost : a.isAggregate = true) (holds : related a b) : UpTo related a b
  | literal : UpTo related (.literal v) (.literal v)
  | ref : UpTo related (.ref name) (.ref name)
  | ply : UpTo related .ply .ply
  | unary (plain : op.isAggregate = false) (operand : UpTo related e f) :
      UpTo related (.unary op e) (.unary op f)
  | binary (plain : op.isAggregate = false) (operand : UpTo related e f)
      (expression : UpTo related x y) : UpTo related (.binary op e x) (.binary op f y)
  | junction (operands : List.Forall₂ (UpTo related) es fs) :
      UpTo related (.junction op es) (.junction op fs)
  | split (operand : UpTo related e f) (names : ks.map (·.1) = ls.map (·.1))
      (keys : List.Forall₂ (UpTo related) (ks.map (·.2)) (ls.map (·.2))) :
      UpTo related (.split e ks dataName) (.split f ls dataName)

@[simp] theorem isAggregate_literal (v : Value) : (Expr.literal v).isAggregate = false := rfl

@[simp] theorem isAggregate_ref (name : String) : (Expr.ref name).isAggregate = false := rfl

@[simp] theorem isAggregate_ply : Expr.ply.isAggregate = false := rfl

@[simp] theorem isAggregate_unary (op : UnaryOp) (e : Expr) :
    (Expr.unary op e).isAggregate = op.isAggregate := rfl

@[simp] theorem isAggregate_binary (op : BinaryOp) (e x : Expr) :
    (Expr.binary op e x).isAggregate = op.isAggregate := rfl

@[simp] theorem isAggregate_junction (op : Junction) (es : List Expr) :
    (Expr.junction op es).isAggregate = false := rfl

@[simp] theorem isAggregate_split (e : Expr) (keys : List (String × Expr)) (dataName : String) :
    (Expr.split e keys dataName).isAggregate = false := rfl

section
variable [Monad m] [LawfulMonad m]

theorem transformAllM_mapM (g : Expr → m (Option Expr)) (es : List Expr) :
    transformAllM g es = es.mapM (transformM g) := by
  induction es with
  | nil => simp [transformAllM]
  | cons e rest ih => simp [transformAllM,ih]

theorem transformKeysM_mapM (g : Expr → m (Option Expr)) (keys : List (String × Expr)) :
    transformKeysM g keys = keys.mapM (fun key => do return (key.1,← transformM g key.2)) := by
  induction keys with
  | nil => simp [transformKeysM]
  | cons key rest ih => simp [transformKeysM,ih]

variable {f : Expr → m Expr}

theorem mapAggregatesM_aggregate {e : Expr} (outermost : e.isAggregate = true) :
    e.mapAggregatesM f = f e := by
  cases e with
  | unary op e => simp [mapAggregatesM,transformM,outermost]
  | binary op e x => simp [mapAggregatesM,transformM,outermost]
  | _ => cases outermost

theorem mapAggregatesM_unary {op : UnaryOp} (plain : op.isAggregate = false) (e : Expr) :
    (Expr.unary op e).mapAggregatesM f = do return .unary op (← e.mapAggregatesM f) := by
  simp [mapAggregatesM,transformM,plain]

theorem mapAggregatesM_binary {op : BinaryOp} (plain : op.isAggregate = false) (e x : Expr) :
    (Expr.binary op e x).mapAggregatesM f = (do
      let e' ← e.mapAggregatesM f
      let x' ← x.mapAggregatesM f
      return .binary op e' x') := by
  simp [mapAggregatesM,transformM,plain]

theorem mapAggregatesM_junction (op : Junction) (es : List Expr) :
    (Expr.junction op es).mapAggregatesM f
      = do return .junction op (← es.mapM (mapAggregatesM f)) := by
  have whole : mapAggregatesM f = transformM fun node =>
    if node.isAggregate then do return some (← f node) else return none := rfl
  simp [whole,transformM,transformAllM_mapM]

theorem mapAggregatesM_split (e : Expr) (keys : List (String × Expr)) (dataName : String) :
    (Expr.split e keys dataName).mapAggregatesM f = (do
      let e' ← e.mapAggregatesM f
      let keys' ← keys.mapM (fun key => do return (key.1,← key.2.mapAggregatesM f))
      return .split e' keys' dataName) := by
  simp [mapAggregatesM,transformM,transformKeysM_mapM]

end

@[elab_as_elim]
theorem UpTo.structural {related motive : Expr → Expr → Prop}
    (aggregate : ∀ {a b}, a.isAggregate = true → related a b → motive a b)
    (literal : ∀ v, motive (.literal v) (.literal v)) (ref : ∀ name, motive (.ref name) (.ref name))
    (ply : motive .ply .ply)
    (unary : ∀ {op e f}, op.isAggregate = false → motive e f → motive (.unary op e) (.unary op f))
    (binary : ∀ {op e f x y}, op.isAggregate = false → motive e f → motive x y →
      motive (.binary op e x) (.binary op f y))
    (junction : ∀ {op es fs}, List.Forall₂ motive es fs →
      motive (.junction op es) (.junction op fs))
    (split : ∀ {e f ks ls dataName}, motive e f → ks.map (·.1) = ls.map (·.1) →
      List.Forall₂ motive (ks.map (·.2)) (ls.map (·.2)) →
      motive (.split e ks dataName) (.split f ls dataName))
    {e e' : Expr} (upTo : UpTo related e e') : motive e e' := by
  apply @UpTo.rec related (fun e f _ => motive e f) (fun es fs _ => List.Forall₂ motive es fs)
  case aggregate => intro a b outermost holds; exact aggregate outermost holds
  case literal => intro v; exact literal v
  case ref => intro name; exact ref name
  case ply => exact ply
  case unary => intro e f op plain _ operand; exact unary plain operand
  case binary =>
      intro e f x y op plain _ _ operand expression
      exact binary plain operand expression
  case junction => intro es fs op _ operands; exact junction operands
  case split => intro e f ks ls dataName _ names _ operand keys; exact split operand names keys
  case nil => exact .nil
  case cons => intro e f es fs _ _ first rest; exact .cons first rest
  case t => exact upTo

theorem aggregates_self {a : Expr} (outermost : a.isAggregate = true) : a.aggregates = [a] := by
  cases a with
  | unary op e => rw [aggregates]; exact if_pos outermost
  | binary op e x => rw [aggregates]; exact if_pos outermost
  | _ => cases outermost

theorem UpTo.imp {related other : Expr → Expr → Prop} {e e' : Expr} (upTo : UpTo related e e')
    (implied : ∀ a b, related a b → other a b) : UpTo other e e' := by
  apply upTo.structural (motive := UpTo other)
  case aggregate => intro a b outermost holds; exact .aggregate outermost (implied _ _ holds)
  case literal => intro v; exact .literal
  case ref => intro name; exact .ref
  case ply => exact .ply
  case unary => intro op e f plain operand; exact .unary plain operand
  case binary =>
      intro op e f x y plain operand expression
      exact .binary plain operand expression
  case junction => intro op es fs operands; exact .junction operands
  case split => intro e f ks ls dataName operand names keys; exact .split operand names keys

-- The names that stand outside of aggregates.
mutual
def namesOutside : Expr → List String
  | .literal _ => []
  | .ref name => [name]
  | .ply => []
  | .unary op e => if op.isAggregate then [] else namesOutside e
  | .binary op e x => if op.isAggregate then [] else namesOutside e ++ namesOutside x
  | .junction _ es => namesOutsideAll es
  | .split e keys _ => namesOutside e ++ namesOutsideKeys keys

def namesOutsideAll : List Expr → List String
  | [] => []
  | e :: rest => namesOutside e ++ namesOutsideAll rest

def namesOutsideKeys : List (String × Expr) → List String
  | [] => []
  | (_,e) :: rest => namesOutside e ++ namesOutsideKeys rest
end

@[simp] theorem namesOutsideAll_flatMap (es : List Expr) :
    namesOutsideAll es = es.flatMap namesOutside := by
  induction es with
  | nil => simp [namesOutsideAll]
  | cons e rest ih => simp [namesOutsideAll,ih]

@[simp] theorem namesOutsideKeys_flatMap (keys : List (String × Expr)) :
    namesOutsideKeys keys = keys.flatMap (fun key => namesOutside key.2) := by
  induction keys with
  | nil => simp [namesOutsideKeys]
  | cons key rest ih => simp [namesOutsideKeys,ih]

theorem namesOutside_aggregate {a : Expr} (outermost : a.isAggregate = true) :
    a.namesOutside = [] := by
  cases a with
  | unary op e => rw [namesOutside]; exact if_pos outermost
  | binary op e x => rw [namesOutside]; exact if_pos outermost
  | _ => cases outermost

-- What stands in place of the outermost aggregates brings its own aggregates and names.
def Brought (related : Expr → Expr → Prop) (before after : List Expr) : Prop :=
  ∃ images, List.Forall₂ related (before.flatMap aggregates) images ∧
    after.flatMap aggregates = images.flatMap aggregates ∧
    ∀ name, name ∈ after.flatMap namesOutside ↔
      name ∈ before.flatMap namesOutside ∨ name ∈ images.flatMap namesOutside

theorem Brought.append {related : Expr → Expr → Prop} {before after early late : List Expr}
    (first : Brought related before after) (second : Brought related early late) :
    Brought related (before ++ early) (after ++ late) := by
  obtain ⟨images,all,own,names⟩ := first
  obtain ⟨others,rest,further,more⟩ := second
  refine ⟨images ++ others,?_,?_,?_⟩
  · rw [List.flatMap_append]; exact List.rel_append all rest
  · simp only [List.flatMap_append,own,further]
  · intro name
    simp only [List.flatMap_append,List.mem_append,names,more]
    exact or_or_or_comm

theorem Brought.all {related : Expr → Expr → Prop} {es fs : List Expr}
    (each : List.Forall₂ (fun e f => Brought related [e] [f]) es fs) : Brought related es fs := by
  induction each with
  | nil => exact ⟨[],.nil,rfl,by simp⟩
  | cons first rest ih => exact first.append ih

theorem UpTo.brought {related : Expr → Expr → Prop} {e e' : Expr} (upTo : UpTo related e e') :
    Brought related [e] [e'] := by
  apply upTo.structural (motive := fun e e' => Brought related [e] [e'])
  case aggregate =>
      intro a b outermost holds
      refine ⟨[b],?_,rfl,?_⟩
      · simpa [aggregates_self outermost] using holds
      · simp [namesOutside_aggregate outermost]
  case literal => intro v; exact ⟨[],.nil,rfl,by simp⟩
  case ref => intro name; exact ⟨[],.nil,rfl,by simp⟩
  case ply => exact ⟨[],.nil,rfl,by simp⟩
  case unary =>
      intro op e f plain operand
      simpa [Brought,aggregates,namesOutside,plain] using operand
  case binary =>
      intro op e f x y plain operand expression
      simpa [Brought,aggregates,namesOutside,plain] using operand.append expression
  case junction =>
      intro op es fs operands
      simpa [Brought,aggregates,namesOutside] using Brought.all operands
  case split =>
      intro e f ks ls dataName operand names keys
      simpa [Brought,aggregates,namesOutside,List.flatMap_map] using operand.append (Brought.all keys)

theorem forall_related {before after : α → β → Prop} {as : List α} {bs : List β}
    (each : List.Forall₂ before as bs) (implied : ∀ a ∈ as, ∀ b, before a b → after a b) :
    List.Forall₂ after as bs :=
  ((List.forall₂_and_left as bs).mpr ⟨implied,each⟩).imp fun _ b both => both.1 b both.2

theorem related_source {related : α → β → Prop} {as : List α} {bs : List β}
    (each : List.Forall₂ related as bs) {b : β} (member : b ∈ bs) : ∃ a ∈ as, related a b := by
  induction each with
  | nil => cases member
  | cons first rest ih =>
      rcases List.mem_cons.mp member with rfl | later
      · exact ⟨_,List.mem_cons_self,first⟩
      · obtain ⟨a,found,holds⟩ := ih later
        exact ⟨a,List.mem_cons_of_mem _ found,holds⟩

theorem keys_forall {related : Expr → Expr → Prop} {ks ls : List (String × Expr)}
    (each : List.Forall₂ (fun k l => k.1 = l.1 ∧ related k.2 l.2) ks ls) :
    ks.map (·.1) = ls.map (·.1) ∧ List.Forall₂ related (ks.map (·.2)) (ls.map (·.2)) := by
  induction each with
  | nil => exact ⟨rfl,.nil⟩
  | cons first rest ih =>
      obtain ⟨names,keys⟩ := ih
      exact ⟨by simp [first.1,names],.cons first.2 keys⟩

-- What a computation comes to from a state: a result and the state after it.
structure Outcomes (m : Type → Type) [Monad m] (σ : Type) where
  gives : {α : Type} → m α → σ → α → σ → Prop
  of_pure : ∀ {α : Type} {a b : α} {s t : σ}, gives (pure a) s b t → b = a ∧ t = s
  of_bind : ∀ {α β : Type} {x : m α} {g : α → m β} {b : β} {s t : σ}, gives (x >>= g) s b t →
    ∃ a u, gives x s a u ∧ gives (g a) u b t

namespace Outcomes

def id : Outcomes Id Unit where
  gives x _ a _ := x = a
  of_pure ran := ⟨ran.symm,rfl⟩
  of_bind ran := ⟨_,(),rfl,ran⟩

def compiled : Outcomes Compiled Unit where
  gives x _ a _ := x = .ok a
  of_pure ran := ⟨(Compiled.pure_ok.mp ran).symm,rfl⟩
  of_bind ran := by
    obtain ⟨a,first,later⟩ := Compiled.bind_ok.mp ran
    exact ⟨a,(),first,later⟩

def state (σ : Type) : Outcomes (StateM σ) σ where
  gives x s a t := x s = (a,t)
  of_pure ran := by cases ran; exact ⟨rfl,rfl⟩
  of_bind ran := ⟨_,_,rfl,ran⟩

end Outcomes

-- A relation between what was there and what comes in its place, at the state reached. It stays
-- in later states.
section
variable {m : Type → Type} [Monad m] [LawfulMonad m] {σ : Type} (outcomes : Outcomes m σ)
  (later : σ → σ → Prop) (refl : ∀ s, later s s)
  (trans : ∀ {s t u}, later s t → later t u → later s u)
include refl trans

theorem mapM_related (related : σ → α → β → Prop)
    (kept : ∀ {s t a b}, later s t → related s a b → related t a b) {g : α → m β} {as : List α}
    (each : ∀ a ∈ as, ∀ {s b t}, outcomes.gives (g a) s b t → later s t ∧ related t a b)
    {s t : σ} {bs : List β} (ran : outcomes.gives (as.mapM g) s bs t) :
    later s t ∧ List.Forall₂ (related t) as bs := by
  induction as generalizing s bs with
  | nil =>
      rw [List.mapM_nil] at ran
      obtain ⟨rfl,rfl⟩ := outcomes.of_pure ran
      exact ⟨refl _,.nil⟩
  | cons a rest ih =>
      rw [List.mapM_cons] at ran
      obtain ⟨b,u,first,ran⟩ := outcomes.of_bind ran
      obtain ⟨others,v,tail,ran⟩ := outcomes.of_bind ran
      obtain ⟨rfl,rfl⟩ := outcomes.of_pure ran
      obtain ⟨early,holds⟩ := each a List.mem_cons_self first
      obtain ⟨late,all⟩ := ih (fun a member => each a (List.mem_cons_of_mem _ member)) tail
      exact ⟨trans early late,.cons (kept late holds) all⟩

theorem mapAggregatesM_upTo (related : σ → Expr → Expr → Prop)
    (kept : ∀ {s t a b}, later s t → related s a b → related t a b) {f : Expr → m Expr}
    {e e' : Expr} (each : ∀ a ∈ e.aggregates, ∀ {s b t}, outcomes.gives (f a) s b t →
      later s t ∧ related t a b)
    {s t : σ} (ran : outcomes.gives (e.mapAggregatesM f) s e' t) :
    later s t ∧ UpTo (related t) e e' := by
  have stays : ∀ {s t e e'}, later s t → UpTo (related s) e e' → UpTo (related t) e e' :=
    fun before upTo => upTo.imp fun _ _ holds => kept before holds
  induction e using Expr.structural generalizing e' s t with
  | literal v =>
      have leaf : (Expr.literal v).mapAggregatesM f = pure (.literal v) := by
        simp [mapAggregatesM,transformM]
      obtain ⟨rfl,rfl⟩ := outcomes.of_pure (leaf ▸ ran)
      exact ⟨refl _,.literal⟩
  | ref name =>
      have leaf : (Expr.ref name).mapAggregatesM f = pure (.ref name) := by
        simp [mapAggregatesM,transformM]
      obtain ⟨rfl,rfl⟩ := outcomes.of_pure (leaf ▸ ran)
      exact ⟨refl _,.ref⟩
  | ply =>
      have leaf : Expr.ply.mapAggregatesM f = pure .ply := by simp [mapAggregatesM,transformM]
      obtain ⟨rfl,rfl⟩ := outcomes.of_pure (leaf ▸ ran)
      exact ⟨refl _,.ply⟩
  | unary op e ih =>
      cases outermost : op.isAggregate with
      | true =>
          have whole : (Expr.unary op e).isAggregate = true := outermost
          rw [mapAggregatesM_aggregate whole] at ran
          exact (each _ (by simp [aggregates_self whole]) ran).imp_right (.aggregate whole)
      | false =>
          rw [mapAggregatesM_unary outermost] at ran
          obtain ⟨f,u,inside,ran⟩ := outcomes.of_bind ran
          obtain ⟨rfl,rfl⟩ := outcomes.of_pure ran
          simp only [aggregates,outermost,Bool.false_eq_true,if_false] at each
          exact (ih each inside).imp_right (.unary outermost)
  | binary op e x left right =>
      cases outermost : op.isAggregate with
      | true =>
          have whole : (Expr.binary op e x).isAggregate = true := outermost
          rw [mapAggregatesM_aggregate whole] at ran
          exact (each _ (by simp [aggregates_self whole]) ran).imp_right (.aggregate whole)
      | false =>
          rw [mapAggregatesM_binary outermost] at ran
          obtain ⟨f,u,operand,ran⟩ := outcomes.of_bind ran
          obtain ⟨y,v,expression,ran⟩ := outcomes.of_bind ran
          obtain ⟨rfl,rfl⟩ := outcomes.of_pure ran
          simp only [aggregates,outermost,Bool.false_eq_true,if_false] at each
          obtain ⟨early,operand⟩ :=
            left (fun a member => each a (List.mem_append_left _ member)) operand
          obtain ⟨late,expression⟩ :=
            right (fun a member => each a (List.mem_append_right _ member)) expression
          exact ⟨trans early late,.binary outermost (stays late operand) expression⟩
  | junction op es ih =>
      rw [mapAggregatesM_junction] at ran
      obtain ⟨fs,u,inside,ran⟩ := outcomes.of_bind ran
      obtain ⟨rfl,rfl⟩ := outcomes.of_pure ran
      simp only [aggregates,aggregatesAll_flatMap] at each
      have all := mapM_related outcomes later refl trans (fun s => UpTo (related s)) stays
        (fun e member => ih e member fun a inside => each a (List.mem_flatMap.mpr ⟨e,member,inside⟩))
        inside
      exact all.imp_right .junction
  | split e keys dataName ih others =>
      rw [mapAggregatesM_split] at ran
      obtain ⟨operand',u,operand,ran⟩ := outcomes.of_bind ran
      obtain ⟨ls,v,inside,ran⟩ := outcomes.of_bind ran
      obtain ⟨rfl,rfl⟩ := outcomes.of_pure ran
      simp only [aggregates,aggregatesKeys_flatMap] at each
      obtain ⟨early,operand⟩ := ih (fun a member => each a (List.mem_append_left _ member)) operand
      have inKey : ∀ key ∈ keys, ∀ {s l t}, outcomes.gives
          (do return (key.1,← key.2.mapAggregatesM f)) s l t →
            later s t ∧ key.1 = l.1 ∧ UpTo (related t) key.2 l.2 := by
        intro key member s l t ran
        obtain ⟨e',u,inside,ran⟩ := outcomes.of_bind ran
        obtain ⟨rfl,rfl⟩ := outcomes.of_pure ran
        have own : ∀ a ∈ key.2.aggregates, a ∈ e.aggregates ++ keys.flatMap fun key =>
            aggregates key.2 := fun a inside =>
          List.mem_append_right _ (List.mem_flatMap.mpr ⟨key,member,inside⟩)
        exact (others key member (fun a inside => each a (own a inside)) inside).imp_right
          fun upTo => ⟨rfl,upTo⟩
      obtain ⟨late,keys⟩ := mapM_related outcomes later refl trans
        (fun s k l => k.1 = l.1 ∧ UpTo (related s) k.2 l.2)
        (fun before => And.imp_right (stays before)) inKey inside
      obtain ⟨names,expressions⟩ := keys_forall keys
      exact ⟨trans early late,.split (stays late operand) names expressions⟩

end

theorem mapAggregatesM_compiled {f : Expr → Compiled Expr} {e e' : Expr}
    (ran : e.mapAggregatesM f = .ok e') : UpTo (fun a b => f a = .ok b) e e' := by
  have upTo := mapAggregatesM_upTo .compiled (fun _ _ => True) (fun _ => trivial)
    (fun _ _ => trivial) (fun _ a b => f a = .ok b) (fun _ holds => holds)
    (fun _ _ _ _ _ ran => ⟨trivial,ran⟩) (s := ()) (t := ()) ran
  exact upTo.2

theorem mapAggregates_upTo (f : Expr → Expr) (e : Expr) :
    UpTo (fun a b => b = f a) e (e.mapAggregates f) := by
  have upTo := mapAggregatesM_upTo .id (fun _ _ => True) (fun _ => trivial)
    (fun _ _ => trivial) (fun _ a b => f a = b) (fun _ holds => holds)
    (fun _ _ _ _ _ ran => ⟨trivial,ran⟩) (s := ()) (t := ())
    (show e.mapAggregatesM (fun node => (pure (f node) : Id Expr)) = e.mapAggregates f from rfl)
  exact upTo.2.imp fun _ _ same => same.symm

-- Puts definitions in place of the names outside of aggregates, all at once.
mutual
def replaceOutside (defined : String → Option Expr) : Expr → Expr
  | .literal v => .literal v
  | .ref name => (defined name).getD (.ref name)
  | .ply => .ply
  | .unary op e => if op.isAggregate then .unary op e else .unary op (replaceOutside defined e)
  | .binary op e x =>
      if op.isAggregate then .binary op e x
      else .binary op (replaceOutside defined e) (replaceOutside defined x)
  | .junction op es => .junction op (replaceOutsideAll defined es)
  | .split e keys dataName =>
      .split (replaceOutside defined e) (replaceOutsideKeys defined keys) dataName

def replaceOutsideAll (defined : String → Option Expr) : List Expr → List Expr
  | [] => []
  | e :: rest => replaceOutside defined e :: replaceOutsideAll defined rest

def replaceOutsideKeys (defined : String → Option Expr) :
    List (String × Expr) → List (String × Expr)
  | [] => []
  | (key,e) :: rest => (key,replaceOutside defined e) :: replaceOutsideKeys defined rest
end

@[simp] theorem replaceOutsideAll_map (defined : String → Option Expr) (es : List Expr) :
    replaceOutsideAll defined es = es.map (replaceOutside defined) := by
  induction es with
  | nil => simp [replaceOutsideAll]
  | cons e rest ih => simp [replaceOutsideAll,ih]

@[simp] theorem replaceOutsideKeys_map (defined : String → Option Expr)
    (keys : List (String × Expr)) :
    replaceOutsideKeys defined keys = keys.map (fun key => (key.1,replaceOutside defined key.2)) := by
  induction keys with
  | nil => simp [replaceOutsideKeys]
  | cons key rest ih => simp [replaceOutsideKeys,ih]

theorem replaceOutside_aggregate (defined : String → Option Expr) {a : Expr}
    (outermost : a.isAggregate = true) : a.replaceOutside defined = a := by
  cases a with
  | unary op e => rw [replaceOutside]; exact if_pos outermost
  | binary op e x => rw [replaceOutside]; exact if_pos outermost
  | _ => cases outermost

theorem replaceOutside_congr {defined other : String → Option Expr} {e : Expr}
    (same : ∀ name ∈ e.namesOutside,
      (defined name).getD (.ref name) = (other name).getD (.ref name)) :
    e.replaceOutside defined = e.replaceOutside other := by
  induction e using Expr.structural with
  | literal v => rfl
  | ply => rfl
  | ref name => exact same name (by simp [namesOutside])
  | unary op e ih =>
      cases outermost : op.isAggregate with
      | true => simp [replaceOutside,outermost]
      | false =>
          simp only [namesOutside,outermost,Bool.false_eq_true,if_false] at same
          simp [replaceOutside,outermost,ih same]
  | binary op e x left right =>
      cases outermost : op.isAggregate with
      | true => simp [replaceOutside,outermost]
      | false =>
          simp only [namesOutside,outermost,Bool.false_eq_true,if_false,
            List.forall_mem_append] at same
          simp [replaceOutside,outermost,left same.1,right same.2]
  | junction op es ih =>
      simp only [namesOutside,namesOutsideAll_flatMap,List.forall_mem_flatMap] at same
      simpa [replaceOutside] using fun e member => ih e member (same e member)
  | split e keys dataName ih others =>
      simp only [namesOutside,namesOutsideKeys_flatMap,List.forall_mem_append,
        List.forall_mem_flatMap] at same
      simp only [replaceOutside,replaceOutsideKeys_map,ih same.1,split.injEq,and_true,true_and,
        List.map_inj_left,Prod.mk.injEq]
      exact fun key member => others key member (same.2 key member)

theorem replaceOutside_self {defined : String → Option Expr} {e : Expr}
    (self : ∀ name ∈ e.namesOutside, (defined name).getD (.ref name) = .ref name) :
    e.replaceOutside defined = e := by
  have none : e.replaceOutside defined = e.replaceOutside (fun _ => none) :=
    replaceOutside_congr self
  rw [none]
  clear self none
  induction e using Expr.structural with
  | literal v => rfl
  | ply => rfl
  | ref name => rfl
  | unary op e ih => simp [replaceOutside,ih]
  | binary op e x left right => simp [replaceOutside,left,right]
  | junction op es ih => simpa [replaceOutside,map_self] using ih
  | split e keys dataName ih others =>
      have each : keys.map (fun key => (key.1,replaceOutside (fun _ => none) key.2)) = keys :=
        map_self.mpr fun key member => by rw [others key member]
      simp [replaceOutside,ih,each]

theorem replaceOutside_twice (defined other : String → Option Expr) (e : Expr) :
    (e.replaceOutside defined).replaceOutside other = e.replaceOutside fun name =>
      match defined name with
      | some value => some (value.replaceOutside other)
      | none => other name := by
  induction e using Expr.structural with
  | literal v => rfl
  | ply => rfl
  | ref name => cases found : defined name <;> simp [replaceOutside,found]
  | unary op e ih => cases outermost : op.isAggregate <;> simp [replaceOutside,outermost,ih]
  | binary op e x left right =>
      cases outermost : op.isAggregate <;> simp [replaceOutside,outermost,left,right]
  | junction op es ih => simpa [replaceOutside] using ih
  | split e keys dataName ih others =>
      simpa [replaceOutside,ih] using fun k key member => others _ member

theorem substituteOutside_replace (name : String) (value e : Expr) :
    substituteOutside name value e
      = e.replaceOutside fun other => if other == name then some value else none := by
  induction e using Expr.structural with
  | literal v => rfl
  | ply => rfl
  | ref other => cases same : other == name <;> simp [substituteOutside,replaceOutside,same]
  | unary op e ih => simp [substituteOutside,replaceOutside,ih]
  | binary op e x left right => simp [substituteOutside,replaceOutside,left,right]
  | junction op es ih => simpa [substituteOutside,replaceOutside] using ih
  | split e keys dataName ih others =>
      simpa [substituteOutside,replaceOutside,ih] using fun k key member => others _ member

theorem UpTo.plain {related : Expr → Expr → Prop} {e e' : Expr} (upTo : UpTo related e e')
    (plain : e.aggregates = []) : e' = e := by
  have all : ∀ {es fs : List Expr}, es.flatMap aggregates = [] →
      List.Forall₂ (fun e f => e.aggregates = [] → f = e) es fs → fs = es := by
    intro es fs none each
    have plain := List.flatMap_eq_nil_iff.mp none
    have same := forall_related each fun e member f equal => (equal (plain e member)).symm
    rw [List.forall₂_eq_eq_eq] at same
    exact same.symm
  revert plain
  apply upTo.structural (motive := fun e e' => e.aggregates = [] → e' = e)
  case aggregate =>
      intro a b outermost _ none
      rw [aggregates_self outermost] at none; cases none
  case literal => intros; rfl
  case ref => intros; rfl
  case ply => intros; rfl
  case unary =>
      intro op e f plain operand none
      rw [operand (by simpa [aggregates,plain] using none)]
  case binary =>
      intro op e f x y plain operand expression none
      simp only [aggregates,plain,Bool.false_eq_true,if_false,List.append_eq_nil_iff] at none
      rw [operand none.1,expression none.2]
  case junction =>
      intro op es fs operands none
      rw [all (by simpa [aggregates] using none) operands]
  case split =>
      intro e f ks ls dataName operand names keys none
      simp only [aggregates,aggregatesKeys_flatMap,List.append_eq_nil_iff] at none
      have values := all (by simpa [List.flatMap_map] using none.2) keys
      have same : ls = ks := by
        rw [← List.zip_unzip ls,← List.zip_unzip ks]
        simp [names,values]
      rw [operand none.1,same]

theorem namesOutside_replaceOutside (defined : String → Option Expr) (e : Expr) (name : String) :
    name ∈ (e.replaceOutside defined).namesOutside ↔
      ∃ other ∈ e.namesOutside, name ∈ ((defined other).getD (.ref other)).namesOutside := by
  induction e using Expr.structural with
  | literal v => simp [replaceOutside,namesOutside]
  | ply => simp [replaceOutside,namesOutside]
  | ref other => simp [replaceOutside,namesOutside]
  | unary op e ih =>
      cases outermost : op.isAggregate <;> simp [replaceOutside,namesOutside,outermost,ih]
  | binary op e x left right =>
      cases outermost : op.isAggregate <;>
        simp [replaceOutside,namesOutside,outermost,left,right,or_and_right,exists_or]
  | junction op es ih =>
      simp only [replaceOutside,replaceOutsideAll_map,namesOutside,namesOutsideAll_flatMap,
        List.flatMap_map,List.mem_flatMap]
      constructor
      · rintro ⟨e,member,inside⟩
        obtain ⟨other,outside,found⟩ := (ih e member).mp inside
        exact ⟨other,⟨e,member,outside⟩,found⟩
      · rintro ⟨other,⟨e,member,outside⟩,found⟩
        exact ⟨e,member,(ih e member).mpr ⟨other,outside,found⟩⟩
  | split e keys dataName ih others =>
      simp only [replaceOutside,replaceOutsideKeys_map,namesOutside,namesOutsideKeys_flatMap,
        List.flatMap_map,List.mem_append,List.mem_flatMap,ih]
      constructor
      · rintro (⟨other,outside,found⟩ | ⟨key,member,inside⟩)
        · exact ⟨other,.inl outside,found⟩
        · obtain ⟨other,outside,found⟩ := (others key member).mp inside
          exact ⟨other,.inr ⟨key,member,outside⟩,found⟩
      · rintro ⟨other,outside | ⟨key,member,outside⟩,found⟩
        · exact .inl ⟨other,outside,found⟩
        · exact .inr ⟨key,member,(others key member).mpr ⟨other,outside,found⟩⟩

end OlapQuery.Expr

namespace OlapQuery.Sql
open OlapQuery.Expr

-- Definitions whose own names are settled are written out one after the other as all at once,
-- where no aggregate captures one of them.
theorem inline_replace {definitions : List (String × Expr)} {e : Expr}
    (settled : ∀ d ∈ definitions, ∀ name ∈ d.2.namesOutside, ∀ other ∈ definitions,
      other.1 = name → other.2 = .ref name)
    (uncaptured : Uncaptured definitions e) :
    inline definitions e = e.replaceOutside fun name => definitions.lookup name := by
  induction definitions generalizing e with
  | nil => exact (replaceOutside_self fun _ _ => rfl).symm
  | cons definition rest ih =>
      obtain ⟨name,value⟩ := definition
      obtain ⟨unmentioned,later⟩ := uncaptured
      have step : inline ((name,value) :: rest) e = inline rest (substituteOutside name value e) := by
        rw [← (substitute_outside name value e).mpr unmentioned]; rfl
      have tail := ih (fun d member other outside next found => settled d
        (List.mem_cons_of_mem _ member) other outside next (List.mem_cons_of_mem _ found)) later
      have kept : value.replaceOutside (fun name => rest.lookup name) = value := by
        refine replaceOutside_self fun other outside => ?_
        cases found : rest.lookup other with
        | none => rfl
        | some next =>
            obtain ⟨before,after,rfl,-⟩ := List.lookup_eq_some_iff.mp found
            exact settled _ List.mem_cons_self other outside (other,next) (by simp) rfl
      rw [step,tail,substituteOutside_replace,replaceOutside_twice]
      refine replaceOutside_congr fun other _ => ?_
      by_cases same : other = name
      · simp [same,kept]
      · have different : (other == name) = false := by simpa using same
        simp [List.lookup_cons,different]

end OlapQuery.Sql
