import OlapQuery.Proofs.Clauses
import OlapQuery.Proofs.ClosedQueries
import OlapQuery.Proofs.KeyFilters

-- The types of the conditions that narrow a nested split to a row. A range around a bucket is a
-- condition whatever the row reports, but an equality is one only if the key may be compared with
-- what is made of its value: a truth value or a number keeps its own type, whatever the key's is.

namespace OlapQuery

open Binding (keyPredicate rowPredicates)

-- Values that can be compared with a key of the type, once they are read.
def Json.fits (type : DataType) : Json → Bool
  | .null => true
  | .bool _ => type == .boolean || type == .null
  | .int _ => type == .number || type == .null
  | .float _ => type == .number || type == .null
  | .str _ => type != .dataset
  | .arr _ => false
  | .obj _ => false

def Dataset.Fits (d : Dataset) (key : Expr) (json : Json) : Prop :=
  key.isBucket = true ∨ ∃ type, key.inferType d.attributeType? = .ok type ∧ json.fits type = true

theorem Value.ofJson_fits {json : Json} {type : DataType} {v : Value}
    (read : Value.ofJson json type = some v) : BinaryOp.comparable type v.type = json.fits type := by
  cases json with
  | null => cases read; cases type <;> rfl
  | bool b => cases read; cases type <;> rfl
  | int n => cases read; cases type <;> rfl
  | float x => cases read; cases type <;> rfl
  | str s =>
      simp only [Value.ofJson] at read
      cases type with
      | number =>
          obtain ⟨x,-,rfl⟩ := Option.map_eq_some_iff.mp read
          rfl
      | boolean =>
          dsimp only at read
          split at read
          · cases read; rfl
          · split at read
            · cases read; rfl
            · cases read
      | time =>
          obtain ⟨t,-,rfl⟩ := Option.map_eq_some_iff.mp read
          rfl
      | _ => cases read; rfl
  | arr items => cases read
  | obj fields => cases read

section Predicate

variable {dataset : Dataset} {key predicate : Expr} {json : Json} {type : DataType}
  {resolve : String → Option DataType}

theorem inferType_is (typed : key.inferType resolve = .ok type) (v : Value) :
    (Expr.is key (.literal v)).inferType resolve =
      if BinaryOp.comparable type v.type then .ok .boolean
      else .error (.mismatch BinaryOp.is.name type.name v.type) := by
  simp only [Expr.inferType,typed,bind,Except.bind,BinaryOp.operandType,BinaryOp.ignoresExpression,
    BinaryOp.resultType]
  rfl

theorem member_typed {e : Expr} (typed : e.inferType resolve = .ok type) (range : Expr) :
    (Expr.member e range).inferType resolve = .ok .boolean := by
  simp [Expr.inferType,typed,bind,Except.bind,BinaryOp.operandType,BinaryOp.ignoresExpression,
    BinaryOp.resultOfOperand]

theorem operand_typed {op : UnaryOp} {e : Expr} (typed : (Expr.unary op e).inferType resolve = .ok type) :
    ∃ type, e.inferType resolve = .ok type := by
  cases inner : e.inferType resolve with
  | error fault => simp [Expr.inferType,inner,bind,Except.bind] at typed
  | ok type => exact ⟨type,rfl⟩

theorem keyPredicate_cases (typed : key.inferType dataset.attributeType? = .ok type)
    (built : keyPredicate dataset key json = .ok predicate) :
    (key.isBucket = true ∧ ∃ op e range, key = .unary op e ∧ predicate = .member e range) ∨
      (key.isBucket = false ∧
        ∃ v, Value.ofJson json type = some v ∧ predicate = .is key (.literal v)) := by
  cases bucket : key.isBucket with
  | false => exact .inr ⟨rfl,Druid.keyPredicate_value typed bucket built⟩
  | true =>
      refine .inl ⟨rfl,?_⟩
      unfold keyPredicate at built
      split at built
      · obtain ⟨start,-,shifted⟩ := Compiled.bind_ok.mp built
        obtain ⟨finish,-,last⟩ := Compiled.bind_ok.mp shifted
        split at last
        · obtain ⟨_,-,refused⟩ := Compiled.bind_ok.mp last
          exact absurd refused Compiled.throw_ok
        · exact ⟨_,_,_,rfl,(Compiled.pure_ok.mp last).symm⟩
      · obtain ⟨start,-,last⟩ := Compiled.bind_ok.mp built
        exact ⟨_,_,_,rfl,(Compiled.pure_ok.mp last).symm⟩
      · rename_i timed numbered
        unfold Expr.isBucket at bucket
        split at bucket
        · exact absurd rfl (timed _ _ _)
        · exact absurd rfl (numbered _ _ _)
        · cases bucket

theorem predicate_type (typed : key.inferType dataset.attributeType? = .ok type)
    (built : keyPredicate dataset key json = .ok predicate) {found : DataType}
    (inferred : predicate.inferType resolve = .ok found) : found = .boolean := by
  rcases keyPredicate_cases typed built with ⟨-,op,e,range,-,rfl⟩ | ⟨-,v,-,rfl⟩
  · cases operand : e.inferType resolve with
    | error fault => simp [Expr.inferType,operand,bind,Except.bind] at inferred
    | ok type =>
        rw [member_typed operand] at inferred
        cases inferred
        rfl
  · cases operand : key.inferType resolve with
    | error fault => simp [Expr.inferType,operand,bind,Except.bind] at inferred
    | ok type =>
        rw [inferType_is operand] at inferred
        split at inferred <;> cases inferred
        rfl

theorem predicate_clause (typed : key.inferType dataset.attributeType? = .ok type)
    (built : keyPredicate dataset key json = .ok predicate) : predicate.IsClause := by
  rcases keyPredicate_cases typed built with ⟨-,op,e,range,-,rfl⟩ | ⟨-,v,-,rfl⟩
  · exact ⟨nofun,nofun⟩
  · exact ⟨nofun,nofun⟩

theorem predicate_typed (typed : key.inferType dataset.attributeType? = .ok type)
    (scope : key.inferType resolve = .ok type)
    (built : keyPredicate dataset key json = .ok predicate) :
    predicate.inferType resolve = .ok .boolean ↔ dataset.Fits key json := by
  unfold Dataset.Fits
  rcases keyPredicate_cases typed built with ⟨bucket,op,e,range,rfl,rfl⟩ | ⟨plain,v,read,rfl⟩
  · obtain ⟨inner,operand⟩ := operand_typed scope
    simp [bucket,member_typed operand]
  · rw [inferType_is scope,Value.ofJson_fits read]
    simp [plain,typed]

end Predicate

theorem andAll_checked {s : Scope} {es : List Expr} (clauses : ∀ e ∈ es, e.IsClause)
    (conditions : ∀ e ∈ es, ∀ type, e.inferType s.resolve = .ok type → type = .boolean) :
    s.checkBoolean (Expr.andAll es) = .ok () ↔ ∀ e ∈ es, e.inferType s.resolve = .ok .boolean := by
  have opened := Expr.conjunctsAll_andAll es
  rw [Expr.conjunctsAll_singleton,Expr.conjunctsAll_opened clauses] at opened
  rw [Expr.checkBoolean_exact,(Expr.condition_clausewise s.resolve).opened _ es opened]
  refine forall₂_congr fun e listed => ⟨?_,fun typed => ⟨.boolean,typed,.inl rfl⟩⟩
  rintro ⟨type,typed,-⟩
  rw [typed,conditions e listed type typed]

-- The condition on a key is well typed if and only if the row's value of the key fits its type, and
-- what narrows a nested split to a row passes the check of filters if and only if all of them do.
theorem key_predicates_typed_iff {dataset : Dataset} {keys : List (String × Expr)}
    (typed : ∀ key ∈ keys, ∃ type, key.2.inferType dataset.attributeType? = .ok type) :
    (∀ key ∈ keys, ∀ json predicate, keyPredicate dataset key.2 json = .ok predicate →
      (predicate.inferType dataset.attributeType? = .ok .boolean ↔ dataset.Fits key.2 json)) ∧
    ∀ row predicates (s : Scope), rowPredicates dataset keys row = .ok predicates →
      (∀ key ∈ keys, key.2.inferType s.resolve = key.2.inferType dataset.attributeType?) →
      (s.checkBoolean (Expr.andAll predicates) = .ok () ↔
        ∀ key ∈ keys, dataset.Fits key.2 ((row.get? key.1).getD .null)) := by
  refine ⟨fun key listed json predicate built => ?_,fun row predicates s built scope => ?_⟩
  · obtain ⟨type,found⟩ := typed key listed
    exact predicate_typed found found built
  · have each : List.Forall₂ (fun key predicate => predicate.IsClause ∧
        (∀ type, predicate.inferType s.resolve = .ok type → type = .boolean) ∧
        (dataset.Fits key.2 ((row.get? key.1).getD .null) ↔
          predicate.inferType s.resolve = .ok .boolean)) keys predicates := by
      refine Expr.forall_related (mapM_ok built) fun key listed predicate built => ?_
      obtain ⟨type,found⟩ := typed key listed
      exact ⟨predicate_clause found built,fun _ => predicate_type found built,
        (predicate_typed found ((scope key listed).trans found) built).symm⟩
    have kept (predicate : Expr) (listed : predicate ∈ predicates) :=
      Expr.related_source each listed
    rw [Druid.forall_exact each fun _ _ related => related.2.2]
    refine andAll_checked (fun predicate listed => ?_) (fun predicate listed => ?_)
    · obtain ⟨-,-,clause,-⟩ := kept predicate listed
      exact clause
    · obtain ⟨-,-,-,condition,-⟩ := kept predicate listed
      exact condition

namespace HourlyVisits

def visits : Dataset :=
  { engine := .mySql,source := "visits",timeAttribute := some "time",
    attributes := [{ name := "time",type := .time },{ name := "page",type := .string },
      { name := "robot",type := .boolean }] }

def hourly : Time.Duration := { hours := 1 }

def hour : Expr := .timeFloor (.ref "time") hourly none

def keys : List (String × Expr) :=
  [("Hour",hour),("Page",.ref "page"),("Robot",.ref "robot")]

theorem keys_each {holds : String × Expr → Prop} (first : holds ("Hour",hour))
    (second : holds ("Page",.ref "page")) (third : holds ("Robot",.ref "robot")) :
    ∀ key ∈ keys, holds key := by
  rw [keys,List.forall_mem_cons,List.forall_mem_cons,List.forall_mem_singleton]
  exact ⟨first,second,third⟩

def pageRow : Row :=
  [("Hour",.null),("Page",.str "Main"),("Robot",.bool false)]

theorem page_row_checked :
    (∀ key ∈ keys, ∃ type, key.2.inferType visits.attributeType? = .ok type) ∧
      ∃ predicates, rowPredicates visits keys pageRow = .ok predicates ∧
        ({ dataset := visits,datasets := ["data"] } : Scope).checkBoolean (Expr.andAll predicates)
          = .ok () := by
  have typed : ∀ key ∈ keys, ∃ type, key.2.inferType visits.attributeType? = .ok type :=
    keys_each ⟨.time,rfl⟩ ⟨.string,rfl⟩ ⟨.boolean,rfl⟩
  have fit : ∀ key ∈ keys, visits.Fits key.2 ((pageRow.get? key.1).getD .null) :=
    keys_each (.inr ⟨.time,rfl,rfl⟩) (.inr ⟨.string,rfl,rfl⟩) (.inr ⟨.boolean,rfl,rfl⟩)
  refine ⟨typed,[.is hour (.literal .null),.is (.ref "page") (.literal (.string "Main")),
    .is (.ref "robot") (.literal (.boolean false))],rfl,?_⟩
  exact ((key_predicates_typed_iff typed).2 pageRow _ _ rfl (keys_each rfl rfl rfl)).mpr fit

def milliseconds : Json := .int 1426291200000

def byPage : Expr := .split (.ref "data") [("Page",.ref "page")] "data"

-- An hour reported in milliseconds since 1970 is read for a bucket, but compared as a number if it
-- was floored, and so are the digits that stand for a truth value: the nested level is not planned.
theorem epoch_hour_mistyped :
    (∃ p, keyPredicate visits (.timeBucket (.ref "time") hourly none) milliseconds = .ok p ∧
      p.inferType visits.attributeType? = .ok .boolean) ∧
    (∃ p, keyPredicate visits hour milliseconds = .ok p ∧
      p.inferType visits.attributeType? = .error (.mismatch "is" "TIME" .number)) ∧
    (∃ p, keyPredicate visits (.ref "robot") (.int 1) = .ok p ∧
      p.inferType visits.attributeType? = .error (.mismatch "is" "BOOLEAN" .number)) ∧
    ∃ bound level, planLevel visits byPage = .ok level ∧
      Binding.bind visits byPage [("Hour",hour)] [("Hour",milliseconds)] = .ok bound ∧
      planLevel visits bound = .error (.refused (.type (.mismatch "is" "TIME" .number))) := by
  exact ⟨⟨_,rfl,rfl⟩,⟨_,rfl,rfl⟩,⟨_,rfl,rfl⟩,_,_,rfl,rfl,rfl⟩

end HourlyVisits

end OlapQuery
