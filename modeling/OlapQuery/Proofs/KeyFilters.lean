import OlapQuery.Binding
import OlapQuery.PostProcess
import OlapQuery.Proofs.FoldRun

-- The rows that a split reports under a value of its key, and the filter for that value on the
-- query inside. Both go to a dimension of the engine. A column that the split reads through a
-- function, ranges and booleans, is compared by the filter as it is stored.

namespace OlapQuery

-- A column whose values are not reported as they are stored.
def Attribute.isRecoded (a : Attribute) : Bool :=
  match a.special with
  | some (.range _ _ _) => true
  | _ => a.type == .boolean

-- A key that is such a column and nothing more.
def Dataset.recodes (d : Dataset) : Expr → Bool
  | .ref name => ((d.attribute? name).map Attribute.isRecoded).getD false
  | _ => false

def Expr.isBucket : Expr → Bool
  | .timeBucket _ _ _ => true
  | .numberBucket _ _ _ => true
  | _ => false

namespace Druid

open Binding (keyPredicate)
open Compiled

-- The text that a row has for a dimension, given how the engine computes its functions and the
-- texts of the row's columns.
def DimensionSource.read (run : ExtractionFn → Option String → Option String)
    (cells : String → Option String) (s : DimensionSource) : Option String :=
  match s.extraction with
  | none => cells s.dimension
  | some function => run function (cells s.dimension)

-- The filter on one text of a dimension.
def DimensionSource.matching (s : DimensionSource) (text : Option String) : Filter :=
  match s.extraction with
  | none => .selector s.dimension text
  | some function => .extraction s.dimension text function

-- The rows that a filter on one text keeps.
inductive Filter.Keeps (run : ExtractionFn → Option String → Option String)
    (cells : String → Option String) : Filter → Prop where
  | selector (same : cells dimension = text) : Keeps run cells (.selector dimension text)
  | extraction (same : run function (cells dimension) = text) :
      Keeps run cells (.extraction dimension text function)

theorem keeps_matching {run : ExtractionFn → Option String → Option String}
    {cells : String → Option String} {s : DimensionSource} {text : Option String} :
    (s.matching text).Keeps run cells ↔ s.read run cells = text := by
  unfold DimensionSource.matching DimensionSource.read
  split
  · exact ⟨fun kept => by cases kept; assumption,.selector⟩
  · exact ⟨fun kept => by cases kept; assumption,.extraction⟩

-- What a row of the answer holds for a key of the type: the text read as a value of it.
def keyValue (type : DataType) : Option String → Json
  | none => .null
  | some text => readAs type (.str text)

-- The value of the key is written with the text it was read from.
def Verbatim (type : DataType) (text : Option String) : Prop :=
  (Value.ofJson (keyValue type text) type).map Value.nativeText = some text

theorem verbatim_text {type : DataType} (text : Option String) (number : type ≠ .number)
    (boolean : type ≠ .boolean) (time : type ≠ .time) : Verbatim type text := by
  cases text with
  | none => rfl
  | some s => cases type <;> first | rfl | contradiction

theorem ofColumn_parts {dataset : Dataset} {name : String} {source : DimensionSource}
    (resolved : DimensionSource.ofColumn dataset name = .ok source)
    (other : dataset.isTimeAttribute name = false) :
    ∃ a, dataset.attribute? name = some a ∧ source.dimension = name ∧
      source.extraction.isSome = a.isRecoded := by
  unfold DimensionSource.ofColumn at resolved
  cases declared : dataset.attribute? name with
  | none => rw [declared] at resolved; cases resolved
  | some a =>
      refine ⟨a,rfl,?_⟩
      simp only [declared,other,Bool.false_eq_true,if_false] at resolved
      split at resolved
      · rename_i separator size digits ranges
        have recoded : a.isRecoded = true := by simp [Attribute.isRecoded,ranges]
        cases resolved
        exact ⟨rfl,recoded.symm⟩
      · rename_i plain
        have recoded : a.isRecoded = (a.type == .boolean) := by
          unfold Attribute.isRecoded
          split
          · rename_i separator size digits ranges
            exact absurd ranges (plain separator size digits)
          · rfl
        split at resolved
        · rename_i boolean
          cases resolved
          exact ⟨rfl,(recoded.trans boolean).symm⟩
        · rename_i stored
          cases resolved
          exact ⟨rfl,by simpa [recoded] using stored⟩

theorem keyPredicate_value {dataset : Dataset} {key predicate : Expr} {json : Json}
    {type : DataType} (typed : key.inferType dataset.attributeType? = .ok type)
    (plain : key.isBucket = false) (built : keyPredicate dataset key json = .ok predicate) :
    ∃ v, Value.ofJson json type = some v ∧ predicate = .is key (.literal v) := by
  unfold keyPredicate at built
  split at built
  · cases plain
  · cases plain
  · obtain ⟨inferred,same,rest⟩ := bind_ok.mp built
    obtain ⟨v,found,last⟩ := bind_ok.mp rest
    rw [typed] at same
    cases same
    cases pure_ok.mp last
    cases read : Value.ofJson json type with
    | none => rw [read] at found; cases found
    | some w => rw [read] at found; cases found; exact ⟨v,rfl,rfl⟩

namespace FilterBuilder

section
variable {b : FilterBuilder} {key : Expr} {source : DimensionSource}
  (resolved : DimensionSource.ofExpr b.dataset key = .ok source) (other : b.isTime key = false)
include resolved other

-- The filter goes to the dimension of the split, but not through the function of a column.
theorem source_exact :
    b.source key = .ok { source with
      extraction := if b.dataset.recodes key then none else source.extraction } ∧
    (b.dataset.recodes key = true → source.extraction.isSome = true) := by
  cases key with
  | ref name =>
      simp only [isTime] at other
      obtain ⟨a,declared,dimension,recoded⟩ := ofColumn_parts resolved other
      have plain : b.source (.ref name) = .ok { dimension := name } := by
        simp [FilterBuilder.source,other,plainDimension,declared,bind,Except.bind,pure,Except.pure]
      have recodes : b.dataset.recodes (.ref name) = source.extraction.isSome := by
        simp [Dataset.recodes,declared,recoded]
      refine ⟨?_,fun same => recodes ▸ same⟩
      rw [plain,recodes,dimension]
      cases source.extraction <;> rfl
  | _ => exact ⟨resolved,fun bare => absurd bare Bool.false_ne_true⟩

omit resolved other in
theorem matchesValue_source {read : DimensionSource} (found : b.source key = .ok read) (v : Value) :
    b.matchesValue key v = .ok (read.matching v.nativeText) := by
  unfold matchesValue DimensionSource.matching
  rw [found]
  cases extracted : read.extraction <;> simp [bind,Except.bind,pure,Except.pure,extracted]

theorem filter_is (v : Value) :
    b.filter (.is key (.literal v)) = .ok (DimensionSource.matching { source with
      extraction := if b.dataset.recodes key then none else source.extraction } v.nativeText) := by
  have value : b.filter (.is key (.literal v)) = b.matchesValue key v := by
    simp only [filter,binary,equality,literal,other]
    rfl
  rw [value]
  exact matchesValue_source (source_exact resolved other).1 v

end

-- For a key that is not the time column itself, the filter for one of its values reads the
-- dimension of the split through the function of the split, if and only if the key is no bare
-- column of ranges or booleans; of these the filter reads what is stored. And where it reads
-- the same, the filter that a nested query is given for a value of a row keeps exactly the rows
-- reported with that value, if and only if the value is written with the text reported.
theorem key_filter_exact (b : FilterBuilder) {key : Expr} {source : DimensionSource}
    (resolved : DimensionSource.ofExpr b.dataset key = .ok source) (other : b.isTime key = false) :
    (∀ v : Value,
      (b.filter (.is key (.literal v)) = .ok (source.matching v.nativeText) ↔
        b.dataset.recodes key = false) ∧
      (b.dataset.recodes key = true → source.extraction.isSome = true ∧
        b.filter (.is key (.literal v)) = .ok (.selector source.dimension v.nativeText))) ∧
    ∀ (type : DataType) (run : ExtractionFn → Option String → Option String)
      (row : String → Option String) (predicate : Expr),
      key.inferType b.dataset.attributeType? = .ok type → key.isBucket = false →
      keyPredicate b.dataset key (keyValue type (source.read run row)) = .ok predicate →
      b.dataset.recodes key = false →
      ∃ f, b.filter predicate = .ok f ∧
        ((∀ cells, f.Keeps run cells ↔ source.read run cells = source.read run row) ↔
          Verbatim type (source.read run row)) := by
  have function := (source_exact resolved other).2
  refine ⟨fun v => ?_,fun type run row predicate typed plain built stored => ?_⟩
  · have made := filter_is resolved other v
    cases recoded : b.dataset.recodes key with
    | false =>
        rw [recoded] at made
        exact ⟨⟨fun _ => rfl,fun _ => made⟩,nofun⟩
    | true =>
        rw [recoded] at made
        have read := function recoded
        refine ⟨⟨fun same => ?_,nofun⟩,fun _ => ⟨read,made⟩⟩
        obtain ⟨f,extracted⟩ := Option.isSome_iff_exists.mp read
        have compared := Except.ok.inj (made.symm.trans same)
        simp [DimensionSource.matching,extracted] at compared
  · obtain ⟨v,found,rfl⟩ := keyPredicate_value typed plain built
    have made := filter_is resolved other v
    rw [stored] at made
    refine ⟨_,made,?_⟩
    have verbatim : Verbatim type (source.read run row) ↔ v.nativeText = source.read run row := by
      simp [Verbatim,found]
    rw [verbatim]
    constructor
    · intro same
      exact (keeps_matching.mp ((same row).mpr rfl)).symm
    · intro written cells
      rw [← written]
      exact keeps_matching

end FilterBuilder

namespace Orders

def orders : Dataset :=
  { engine := .druid,source := "orders",timeAttribute := some "time",
    attributes := [{ name := "time",type := .time },{ name := "city",type := .string },
      { name := "paid",type := .boolean }] }

def run : ExtractionFn → Option String → Option String
  | .substring index (some length),some text =>
      some (String.ofList ((text.toList.drop index.toInt.toNat).take length.toInt.toNat))
  | .lookup (.map entries) none,some text => entries.get? text
  | _,text => text

def initial : Expr := .substr (.ref "city") 0 1

def inOslo : String → Option String := fun _ => some "Oslo"

def paidOrder : String → Option String := fun _ => some "1"

theorem same_initial_kept :
    (FilterBuilder.mk orders .query).filter (.is initial (.literal (.string "O")))
        = .ok (.extraction "city" (some "O") (.substring 0 (some 1))) ∧
      ∃ f, (FilterBuilder.mk orders .query).filter (.is initial (.literal (.string "O"))) = .ok f ∧
        ∀ cells, f.Keeps run cells ↔ run (.substring 0 (some 1)) (cells "city") = some "O" := by
  have resolved : DimensionSource.ofExpr orders initial
      = .ok ⟨"city",some (.substring 0 (some 1))⟩ := rfl
  obtain ⟨values,rows⟩ := FilterBuilder.key_filter_exact ⟨orders,.query⟩ resolved rfl
  obtain ⟨f,made,exactly⟩ := rows .string run inOslo (.is initial (.literal (.string "O")))
    rfl rfl rfl rfl
  have kept := exactly.mpr (verbatim_text _ nofun nofun nofun)
  exact ⟨(values (.string "O")).1.mpr rfl,f,made,kept⟩

theorem paid_order_lost :
    ∃ source f, DimensionSource.ofExpr orders (.ref "paid") = .ok source ∧
      source.read run paidOrder = some "true" ∧
      keyPredicate orders (.ref "paid") (keyValue .boolean (some "true"))
        = .ok (.is (.ref "paid") (.literal (.boolean true))) ∧
      (FilterBuilder.mk orders .query).filter (.is (.ref "paid") (.literal (.boolean true))) = .ok f ∧
      f ≠ source.matching (some "true") ∧ ¬ f.Keeps run paidOrder := by
  refine ⟨⟨"paid",some (.lookup (.map booleanMap) none)⟩,.selector "paid" (some "true"),
    rfl,rfl,rfl,rfl,nofun,?_⟩
  intro kept
  cases kept with
  | selector same => exact absurd same (by decide)

end Orders

end Druid

end OlapQuery
