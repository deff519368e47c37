import OlapQuery.Proofs.DialectAlike
import OlapQuery.Proofs.Structure
import OlapQuery.Sql.Render
import OlapQuery.Time.ZoneTable

-- The contents of strings and patterns, and what the text of an expression owes to them: two
-- expressions that differ in contents only are rendered to the same tokens but for these.

namespace OlapQuery

open Time (Zone)

namespace Value

mutual
def blank : Value → Value
  | .null => .null
  | .boolean b => .boolean b
  | .number x => .number x
  | .string _ => .string ""
  | .time t => .time t
  | .timeRange range => .timeRange range
  | .numberRange range => .numberRange range
  | .set type elements => .set type (blankAll elements)

def blankAll : List Value → List Value
  | [] => []
  | v :: rest => blank v :: blankAll rest
end

mutual
def contents : Value → List String
  | .string s => [s]
  | .set _ elements => contentsAll elements
  | _ => []

def contentsAll : List Value → List String
  | [] => []
  | v :: rest => contents v ++ contentsAll rest
end

end Value

namespace UnaryOp

def blank : UnaryOp → UnaryOp
  | .regexMatch _ => .regexMatch ""
  | .extract _ => .extract ""
  | op => op

def contents : UnaryOp → List String
  | .regexMatch pattern => [pattern]
  | .extract pattern => [pattern]
  | _ => []

def zone? : UnaryOp → Option Zone
  | .timeBucket _ zone => zone
  | .timeFloor _ zone => zone
  | .timePart _ zone => zone
  | .timeShift _ _ zone => zone
  | _ => none

end UnaryOp

namespace Expr

-- The expression without the contents of its string literals and patterns.
mutual
def blank : Expr → Expr
  | .literal v => .literal v.blank
  | .ref name => .ref name
  | .ply => .ply
  | .unary op e => .unary op.blank (blank e)
  | .binary op e x => .binary op (blank e) (blank x)
  | .junction op es => .junction op (blankAll es)
  | .split e keys dataName => .split (blank e) (blankKeys keys) dataName

def blankAll : List Expr → List Expr
  | [] => []
  | e :: rest => blank e :: blankAll rest

def blankKeys : List (String × Expr) → List (String × Expr)
  | [] => []
  | (name,e) :: rest => (name,blank e) :: blankKeys rest
end

-- These contents, in the order in which they stand.
mutual
def contents : Expr → List String
  | .literal v => v.contents
  | .ref _ => []
  | .ply => []
  | .unary op e => op.contents ++ contents e
  | .binary _ e x => contents e ++ contents x
  | .junction _ es => contentsAll es
  | .split e keys _ => contents e ++ contentsKeys keys

def contentsAll : List Expr → List String
  | [] => []
  | e :: rest => contents e ++ contentsAll rest

def contentsKeys : List (String × Expr) → List String
  | [] => []
  | (_,e) :: rest => contents e ++ contentsKeys rest
end

def zones (e : Expr) : List Zone :=
  e.nodes.flatMap fun
    | .unary op _ => op.zone?.toList
    | _ => []

end Expr

-- The same but for contents, where those that stand in the same place are pairs of the list.
structure Reworded {α : Type} (blank : α → α) (contents : α → List String)
    (pairs : List (String × String)) (a b : α) : Prop where
  same : blank a = blank b
  listed : ∀ pair ∈ (contents a).zip (contents b), pair ∈ pairs

section Lists

variable {α : Type} {blank : α → α} {contents : α → List String} {pairs : List (String × String)}

theorem paired_append {ss ts us vs : List String} (lengths : ss.length = ts.length)
    (listed : ∀ pair ∈ (ss ++ us).zip (ts ++ vs), pair ∈ pairs) :
    (∀ pair ∈ ss.zip ts, pair ∈ pairs) ∧ ∀ pair ∈ us.zip vs, pair ∈ pairs := by
  rw [List.zip_append lengths] at listed
  exact ⟨fun pair early => listed pair (List.mem_append_left _ early),
    fun pair late => listed pair (List.mem_append_right _ late)⟩

theorem reworded_each (lengths : ∀ a b, blank a = blank b → (contents a).length = (contents b).length)
    {as bs : List α} (same : as.map blank = bs.map blank)
    (listed : ∀ pair ∈ (as.flatMap contents).zip (bs.flatMap contents), pair ∈ pairs) :
    List.Forall₂ (Reworded blank contents pairs) as bs := by
  induction as generalizing bs with
  | nil =>
      cases bs with
      | nil => exact .nil
      | cons b bs => cases same
  | cons a as ih =>
      cases bs with
      | nil => cases same
      | cons b bs =>
          obtain ⟨head,tail⟩ := List.cons_eq_cons.mp same
          obtain ⟨first,rest⟩ := paired_append (lengths a b head) listed
          exact .cons ⟨head,first⟩ (ih tail rest)

end Lists

namespace Value

@[simp] theorem blankAll_map (vs : List Value) : blankAll vs = vs.map blank := by
  induction vs with
  | nil => simp [blankAll]
  | cons v rest ih => simp [blankAll,ih]

@[simp] theorem contentsAll_flatMap (vs : List Value) : contentsAll vs = vs.flatMap contents := by
  induction vs with
  | nil => simp [contentsAll]
  | cons v rest ih => simp [contentsAll,ih]

mutual
theorem contents_blank : ∀ v : Value, v.blank.contents.length = v.contents.length
  | .null | .boolean _ | .number _ | .string _ | .time _ | .timeRange _ | .numberRange _ => rfl
  | .set _ elements => contentsAll_blank elements

theorem contentsAll_blank : ∀ vs : List Value,
    (contentsAll (blankAll vs)).length = (contentsAll vs).length
  | [] => rfl
  | v :: rest => by
      simp only [blankAll,contentsAll,List.length_append,contents_blank v,contentsAll_blank rest]
end

theorem contents_length (v w : Value) (same : v.blank = w.blank) :
    v.contents.length = w.contents.length := by
  rw [← contents_blank v,same,contents_blank]

theorem reworded_cases {pairs : List (String × String)} {v w : Value}
    (reworded : Reworded blank contents pairs v w) :
    (v = w ∧ ∀ type vs, v ≠ .set type vs) ∨ (∃ s t, v = .string s ∧ w = .string t ∧ (s,t) ∈ pairs) ∨
      ∃ type vs ws, v = .set type vs ∧ w = .set type ws ∧
        List.Forall₂ (Reworded blank contents pairs) vs ws := by
  obtain ⟨same,listed⟩ := reworded
  cases v with
  | string s =>
      cases w with
      | string t => exact .inr (.inl ⟨s,t,rfl,rfl,listed (s,t) List.mem_cons_self⟩)
      | _ => cases same
  | set type vs =>
      cases w with
      | set type' ws =>
          simp only [blank,blankAll_map,Value.set.injEq] at same
          simp only [contents,contentsAll_flatMap] at listed
          obtain ⟨rfl,same⟩ := same
          exact .inr (.inr ⟨type,vs,ws,rfl,rfl,reworded_each contents_length same listed⟩)
      | _ => cases same
  | _ =>
      cases w with
      | string t => cases same
      | set type ws => cases same
      | _ => exact .inl ⟨same,fun _ _ is => nomatch is⟩

theorem blank_type (v : Value) : v.blank.type = v.type := by
  cases v with
  | set type elements => cases type <;> rfl
  | _ => rfl

end Value

theorem UnaryOp.reworded_cases {pairs : List (String × String)} {op op' : UnaryOp}
    (reworded : Reworded UnaryOp.blank UnaryOp.contents pairs op op') :
    op = op' ∨ (∃ s t, op = .regexMatch s ∧ op' = .regexMatch t ∧ (s,t) ∈ pairs) ∨
      ∃ s t, op = .extract s ∧ op' = .extract t ∧ (s,t) ∈ pairs := by
  obtain ⟨same,listed⟩ := reworded
  cases op with
  | regexMatch s =>
      cases op' with
      | regexMatch t => exact .inr (.inl ⟨s,t,rfl,rfl,listed (s,t) List.mem_cons_self⟩)
      | _ => cases same
  | extract s =>
      cases op' with
      | extract t => exact .inr (.inr ⟨s,t,rfl,rfl,listed (s,t) List.mem_cons_self⟩)
      | _ => cases same
  | _ =>
      cases op' with
      | regexMatch t => cases same
      | extract t => cases same
      | _ => exact .inl same

namespace Expr

@[simp] theorem blankAll_map (es : List Expr) : blankAll es = es.map blank := by
  induction es with
  | nil => simp [blankAll]
  | cons e rest ih => simp [blankAll,ih]

@[simp] theorem blankKeys_map (keys : List (String × Expr)) :
    blankKeys keys = keys.map (fun key => (key.1,blank key.2)) := by
  induction keys with
  | nil => simp [blankKeys]
  | cons key rest ih => simp [blankKeys,ih]

@[simp] theorem contentsAll_flatMap (es : List Expr) : contentsAll es = es.flatMap contents := by
  induction es with
  | nil => simp [contentsAll]
  | cons e rest ih => simp [contentsAll,ih]

@[simp] theorem contentsKeys_flatMap (keys : List (String × Expr)) :
    contentsKeys keys = keys.flatMap (fun key => contents key.2) := by
  induction keys with
  | nil => simp [contentsKeys]
  | cons key rest ih => simp [contentsKeys,ih]

theorem zones_unary (op : UnaryOp) (e : Expr) :
    (Expr.unary op e).zones = op.zone?.toList ++ e.zones := by
  simp [zones,nodes]

theorem zones_binary (op : BinaryOp) (e x : Expr) :
    (Expr.binary op e x).zones = e.zones ++ x.zones := by
  simp [zones,nodes]

theorem zones_junction (op : Junction) (es : List Expr) :
    (Expr.junction op es).zones = es.flatMap zones := by
  simp only [zones,nodes,nodesAll_flatMap,List.flatMap_cons,List.nil_append,List.flatMap_assoc]
  rfl

theorem contents_blank (e : Expr) : e.blank.contents.length = e.contents.length := by
  induction e using structural with
  | literal v => exact v.contents_blank
  | ref name => rfl
  | ply => rfl
  | unary op e ih =>
      simp only [blank,contents,List.length_append,ih]
      cases op <;> rfl
  | binary op e x left right => simp only [blank,contents,List.length_append,left,right]
  | junction op es each =>
      simp only [blank,contents,blankAll_map,contentsAll_flatMap,List.length_flatMap,List.map_map]
      exact congrArg List.sum (List.map_congr_left each)
  | split e keys dataName operand each =>
      simp only [blank,contents,blankKeys_map,contentsKeys_flatMap,List.length_append,
        List.length_flatMap,List.map_map,operand]
      exact congrArg (_ + ·) (congrArg List.sum (List.map_congr_left each))

theorem contents_length (e f : Expr) (same : e.blank = f.blank) :
    e.contents.length = f.contents.length := by
  rw [← contents_blank e,same,contents_blank]

section Reworded

variable {pairs : List (String × String)} {g : Expr}

theorem reworded_literal {v : Value} (reworded : Reworded blank contents pairs (.literal v) g) :
    ∃ w, g = .literal w ∧ Reworded Value.blank Value.contents pairs v w := by
  obtain ⟨same,listed⟩ := reworded
  cases g with
  | literal w => exact ⟨w,rfl,by simpa [blank] using same,listed⟩
  | _ => cases same

theorem reworded_unary {op : UnaryOp} {e : Expr}
    (reworded : Reworded blank contents pairs (.unary op e) g) :
    ∃ op' f, g = .unary op' f ∧ Reworded UnaryOp.blank UnaryOp.contents pairs op op' ∧
      Reworded blank contents pairs e f := by
  obtain ⟨same,listed⟩ := reworded
  cases g with
  | unary op' f =>
      obtain ⟨ops,operands⟩ := Expr.unary.inj same
      have lengths (op : UnaryOp) : op.blank.contents.length = op.contents.length := by
        cases op <;> rfl
      have lengths : op.contents.length = op'.contents.length := by
        rw [← lengths op,ops,lengths]
      obtain ⟨first,rest⟩ := paired_append lengths listed
      exact ⟨op',f,rfl,⟨ops,first⟩,⟨operands,rest⟩⟩
  | _ => cases same

theorem reworded_binary {op : BinaryOp} {e x : Expr}
    (reworded : Reworded blank contents pairs (.binary op e x) g) :
    ∃ f y, g = .binary op f y ∧ Reworded blank contents pairs e f ∧
      Reworded blank contents pairs x y := by
  obtain ⟨same,listed⟩ := reworded
  cases g with
  | binary op' f y =>
      obtain ⟨rfl,left,right⟩ := Expr.binary.inj same
      obtain ⟨first,rest⟩ := paired_append (contents_length e f left) listed
      exact ⟨f,y,rfl,⟨left,first⟩,⟨right,rest⟩⟩
  | _ => cases same

theorem reworded_junction {op : Junction} {es : List Expr}
    (reworded : Reworded blank contents pairs (.junction op es) g) :
    ∃ fs, g = .junction op fs ∧ List.Forall₂ (Reworded blank contents pairs) es fs := by
  obtain ⟨same,listed⟩ := reworded
  cases g with
  | junction op' fs =>
      simp only [blank,blankAll_map,Expr.junction.injEq] at same
      simp only [contents,contentsAll_flatMap] at listed
      obtain ⟨rfl,same⟩ := same
      exact ⟨fs,rfl,reworded_each contents_length same listed⟩
  | _ => cases same

end Reworded

theorem inferType_blank (resolve : String → Option DataType) (e : Expr) :
    e.blank.inferType resolve = e.inferType resolve := by
  induction e using structural with
  | literal v => simp only [blank,inferType,Value.blank_type]
  | ref name => rfl
  | ply => rfl
  | unary op e ih =>
      simp only [blank,inferType,ih]
      cases op <;> rfl
  | binary op e x left right => simp only [blank,inferType,left,right]
  | junction op es each => simp only [blank,blankAll_map,inferType,expectBooleans_map each]
  | split e keys dataName operand each => simp only [blank,inferType,operand]

end Expr

end OlapQuery
