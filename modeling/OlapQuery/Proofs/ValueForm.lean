import OlapQuery.Proofs.JsonRecords
import OlapQuery.Proofs.LooseTimes
import OlapQuery.Value.Codec

-- The JSON form of values is read back as the value, whether it stands alone or inside what was
-- kept. It says nothing of numbers that are not finite, and its times are those of the calendar;
-- no others are ever read.

namespace OlapQuery

open Time (Instant)

namespace Json

theorem ofFloat_finite {x : Float} (finite : x.isFinite = true) : ofFloat x = .float x := by
  have parts : x.isNaN = false ∧ x.isInf = false := by
    change x.toModel.unpack.isFinite = true at finite
    change x.toModel.unpack.isNaN = false ∧ x.toModel.unpack.isInf = false
    cases is : x.toModel.unpack with
    | notANumber => rw [is] at finite; cases finite
    | infinity s => rw [is] at finite; cases finite
    | zero s => exact ⟨rfl,rfl⟩
    | finite s m e positive => exact ⟨rfl,rfl⟩
  rw [ofFloat,parts.1,parts.2]
  rfl

theorem number_ofFloat {x : Float} (finite : x.isFinite = true) : (ofFloat x).number? = some x := by
  rw [ofFloat_finite finite]
  rfl

theorem looseInstant_proper {j : Json} {t : Instant} (read : j.looseInstant? = some t) :
    t.Proper := by
  obtain ⟨_,-,read⟩ := Option.bind_eq_some_iff.mp read
  exact Instant.parseLoose_proper read

theorem looseInstant_ofInstant {t : Instant} (proper : t.Proper) :
    (ofInstant t).looseInstant? = some t := by
  rw [looseInstant?,ofInstant,str?,Option.bind_some,Instant.parseLoose_exactText proper]

theorem optional_ofOption {α : Type} {encode : α → Json} {decode : Json → Option α} {a : Option α}
    (written : ∀ b ∈ a, encode b ≠ .null ∧ decode (encode b) = some b) :
    optional decode (some (ofOption encode a)) = some a := by
  cases a with
  | none => rfl
  | some b =>
      obtain ⟨given,read⟩ := written b rfl
      rw [ofOption,optional,read]
      · rfl
      · exact given

theorem optional_reads {α : Type} {decode : Json → Option α} {member : Option Json}
    {a : Option α} (read : optional decode member = some a) :
    ∀ b ∈ a, ∃ j, decode j = some b := by
  unfold optional at read
  split at read
  · cases read; exact fun b is => nomatch is
  · cases read; exact fun b is => nomatch is
  · rename_i j _
    obtain ⟨b,decoded,is⟩ := Option.map_eq_some_iff.mp read
    cases is
    rintro _ ⟨⟩
    exact ⟨j,decoded⟩

end Json

theorem TimeRange.ofJson_toJson {r : TimeRange} (low : ∀ t ∈ r.start, t.Proper)
    (high : ∀ t ∈ r.finish, t.Proper) : TimeRange.ofJson? r.toJson = some r := by
  have bound {t : Option Instant} (proper : ∀ u ∈ t, u.Proper) :
      Json.optional Json.looseInstant? (some (Json.ofOption Json.ofInstant t)) = some t :=
    Json.optional_ofOption fun u is => ⟨nofun,Json.looseInstant_ofInstant (proper u is)⟩
  have parts : r.toJson.bounds? = some (some (Json.ofOption Json.ofInstant r.start),
      some (Json.ofOption Json.ofInstant r.finish)) := rfl
  rw [TimeRange.ofJson?,parts]
  simp only [Option.bind_eq_bind,Option.bind_some,bound low,bound high]

theorem TimeRange.read_proper {j : Json} {r : TimeRange} (read : TimeRange.ofJson? j = some r) :
    (∀ t ∈ r.start, t.Proper) ∧ ∀ t ∈ r.finish, t.Proper := by
  obtain ⟨_,-,read⟩ := Option.bind_eq_some_iff.mp read
  obtain ⟨_,low,read⟩ := Option.bind_eq_some_iff.mp read
  obtain ⟨_,high,read⟩ := Option.bind_eq_some_iff.mp read
  cases read
  constructor
  · intro t is
    obtain ⟨_,decoded⟩ := Json.optional_reads low t is
    exact Json.looseInstant_proper decoded
  · intro t is
    obtain ⟨_,decoded⟩ := Json.optional_reads high t is
    exact Json.looseInstant_proper decoded

theorem NumberRange.ofJson_toJson {r : NumberRange} (low : ∀ x ∈ r.start, x.isFinite = true)
    (high : ∀ x ∈ r.finish, x.isFinite = true) : NumberRange.ofJson? r.toJson = some r := by
  have bound {x : Option Float} (finite : ∀ y ∈ x, y.isFinite = true) :
      Json.optional Json.number? (some (Json.ofOption Json.ofFloat x)) = some x := by
    refine Json.optional_ofOption fun y is => ⟨?_,Json.number_ofFloat (finite y is)⟩
    rw [Json.ofFloat_finite (finite y is)]
    nofun
  have parts : r.toJson.bounds? = some (some (Json.ofOption Json.ofFloat r.start),
      some (Json.ofOption Json.ofFloat r.finish)) := rfl
  rw [NumberRange.ofJson?,parts]
  simp only [Option.bind_eq_bind,Option.bind_some,bound low,bound high]

namespace Value

@[elab_as_elim]
theorem structural {motive : Value → Prop} (null : motive .null)
    (boolean : ∀ b, motive (.boolean b)) (number : ∀ x, motive (.number x))
    (string : ∀ s, motive (.string s)) (time : ∀ t, motive (.time t))
    (timeRange : ∀ r, motive (.timeRange r)) (numberRange : ∀ r, motive (.numberRange r))
    (set : ∀ type elements, (∀ v ∈ elements, motive v) → motive (.set type elements)) :
    ∀ v, motive v := by
  intro v
  apply @Value.rec motive (fun elements => ∀ v ∈ elements, motive v) null boolean number string time
    timeRange numberRange set
  · intro v member; cases member
  · intro head tail first others
    exact List.forall_mem_cons.mpr ⟨first,others⟩

-- A value itself, or what a set holds.
mutual
def scalars : Value → List Value
  | .set _ elements => scalarsAll elements
  | v => [v]

def scalarsAll : List Value → List Value
  | [] => []
  | v :: rest => scalars v ++ scalarsAll rest
end

theorem scalarsAll_flatMap (vs : List Value) : scalarsAll vs = vs.flatMap scalars := by
  induction vs with
  | nil => rfl
  | cons v rest ih => rw [scalarsAll,ih,List.flatMap_cons]

def numbers (v : Value) : List Float :=
  v.scalars.flatMap fun
    | .number x => [x]
    | .numberRange r => r.start.toList ++ r.finish.toList
    | _ => []

def instants (v : Value) : List Instant :=
  v.scalars.flatMap fun
    | .time t => [t]
    | .timeRange r => r.start.toList ++ r.finish.toList
    | _ => []

theorem numbers_set (type : DataType) (elements : List Value) :
    (set type elements).numbers = elements.flatMap numbers := by
  rw [numbers,scalars,scalarsAll_flatMap,List.flatMap_assoc]
  rfl

theorem instants_set (type : DataType) (elements : List Value) :
    (set type elements).instants = elements.flatMap instants := by
  rw [instants,scalars,scalarsAll_flatMap,List.flatMap_assoc]
  rfl

section Written

variable (origin : Json.Origin)

@[simp] theorem read_json (j : Json) : (read origin j).json = j :=
  Json.readBy_keeps (f := Reading.json) (g := id) (fun _ _ => rfl) j

@[simp] theorem allToJson_map (vs : List Value) : allToJson vs = vs.map toJson := by
  induction vs with
  | nil => rfl
  | cons v rest ih => rw [allToJson,ih,List.map_cons]

theorem read_content {kind : String} (other : kind ≠ "SET") (content : Json) :
    (read origin (tagged kind content)).value = scalarOfJson? kind (some content) := by
  have parts : (read origin (tagged kind content)).value
      = if kind == "SET" then (read origin content).setContent
        else scalarOfJson? kind (some (read origin content).json) := rfl
  rw [parts,if_neg (by simpa using other),read_json]

theorem read_set (type : DataType) (items : List Json) :
    (read origin (tagged "SET" (.obj [("setType",.str type.name),("elements",.arr items)]))).value
      = (items.mapM fun j => (read origin j).value).bind fun elements => some (set type elements) := by
  have parts : ((Json.readItems (reading origin) items).mapM Reading.value)
      = items.mapM fun j => (read origin j).value := by
    rw [Json.readItems_map,List.mapM_map]
    rfl
  rw [← parts]
  cases type <;> rfl

theorem scalar_number (j : Json) : scalarOfJson? "NUMBER" (some j) = j.number?.map number := rfl

theorem scalar_time (j : Json) : scalarOfJson? "TIME" (some j) = j.looseInstant?.map time := rfl

theorem scalar_timeRange (j : Json) :
    scalarOfJson? "TIME_RANGE" (some j) = (TimeRange.ofJson? j).map timeRange := rfl

theorem scalar_numberRange (j : Json) :
    scalarOfJson? "NUMBER_RANGE" (some j) = (NumberRange.ofJson? j).map numberRange := rfl

theorem read_toJson {v : Value} (finite : ∀ x ∈ v.numbers, x.isFinite = true)
    (proper : ∀ t ∈ v.instants, t.Proper) : (read origin v.toJson).value = some v := by
  induction v using structural with
  | null => rfl
  | boolean b => rfl
  | string s => rfl
  | number x =>
      have read := Json.number_ofFloat (finite x (List.mem_singleton_self x))
      rw [toJson,read_content origin (by decide),scalar_number,read,Option.map_some]
  | time t =>
      have read := Json.looseInstant_ofInstant (proper t (List.mem_singleton_self t))
      rw [toJson,read_content origin (by decide),scalar_time,read,Option.map_some]
  | timeRange r =>
      have listed : (timeRange r).instants = r.start.toList ++ r.finish.toList :=
        List.append_nil _
      have read : TimeRange.ofJson? r.toJson = some r := by
        apply TimeRange.ofJson_toJson
        · exact fun t is => proper t (by simp [listed,Option.mem_def.mp is])
        · exact fun t is => proper t (by simp [listed,Option.mem_def.mp is])
      rw [toJson,read_content origin (by decide),scalar_timeRange,read,Option.map_some]
  | numberRange r =>
      have listed : (numberRange r).numbers = r.start.toList ++ r.finish.toList :=
        List.append_nil _
      have read : NumberRange.ofJson? r.toJson = some r := by
        apply NumberRange.ofJson_toJson
        · exact fun x is => finite x (by simp [listed,Option.mem_def.mp is])
        · exact fun x is => finite x (by simp [listed,Option.mem_def.mp is])
      rw [toJson,read_content origin (by decide),scalar_numberRange,read,Option.map_some]
  | set type elements ih =>
      have each : ∀ v ∈ elements, (read origin v.toJson).value = some v := by
        intro v listed
        apply ih v listed
        · intro x inside
          exact finite x (numbers_set type elements ▸ List.mem_flatMap_of_mem listed inside)
        · intro t inside
          exact proper t (instants_set type elements ▸ List.mem_flatMap_of_mem listed inside)
      have whole : elements.mapM ((fun j => (read origin j).value) ∘ toJson) = some elements :=
        (Json.mapM_some each).trans (congrArg some (List.map_id' elements))
      rw [toJson,read_set,allToJson_map,List.mapM_map,whole,Option.bind_some]

end Written

-- What a piece of JSON can stand for has proper times only.
structure Reading.Proper (r : Reading) : Prop where
  value : ∀ v, r.value = some v → ∀ t ∈ v.instants, t.Proper
  elements : ∀ vs, r.elements = some vs → ∀ v ∈ vs, ∀ t ∈ v.instants, t.Proper
  setContent : ∀ v, r.setContent = some v → ∀ t ∈ v.instants, t.Proper

section Read

variable {origin : Json.Origin}

theorem scalar_proper {kind : String} {content : Option Json} {v : Value}
    (read : scalarOfJson? kind content = some v) : ∀ t ∈ v.instants, t.Proper := by
  unfold scalarOfJson? at read
  split at read
  · cases read; exact fun t listed => nomatch listed
  · cases read; exact fun t listed => nomatch listed
  · obtain ⟨_,-,is⟩ := Option.map_eq_some_iff.mp read
    cases is
    exact fun t listed => nomatch listed
  · obtain ⟨_,-,is⟩ := Option.map_eq_some_iff.mp read
    cases is
    exact fun t listed => nomatch listed
  · obtain ⟨_,-,is⟩ := Option.map_eq_some_iff.mp read
    cases is
    exact fun t listed => nomatch listed
  · obtain ⟨t,decoded,is⟩ := Option.map_eq_some_iff.mp read
    cases is
    intro u listed
    cases List.mem_singleton.mp listed
    exact Json.looseInstant_proper decoded
  · obtain ⟨r,decoded,is⟩ := Option.map_eq_some_iff.mp read
    cases is
    obtain ⟨low,high⟩ := TimeRange.read_proper decoded
    intro t listed
    have listed : t ∈ r.start.toList ++ r.finish.toList ++ [] := listed
    rw [List.append_nil] at listed
    rcases List.mem_append.mp listed with early | late
    · exact low t (Option.mem_toList.mp early)
    · exact high t (Option.mem_toList.mp late)
  · obtain ⟨_,-,is⟩ := Option.map_eq_some_iff.mp read
    cases is
    exact fun t listed => nomatch listed
  · cases read

theorem ofParts_proper {parts : Json.Parts Reading} (each : parts.Each Reading.Proper) {v : Value}
    (read : ofParts? origin parts = some v) : ∀ t ∈ v.instants, t.Proper := by
  obtain ⟨fields,given,read⟩ := Option.bind_eq_some_iff.mp read
  obtain ⟨_,-,read⟩ := Option.bind_eq_some_iff.mp read
  obtain ⟨kind,-,read⟩ := Option.bind_eq_some_iff.mp read
  dsimp only at read
  split at read
  · obtain ⟨content,found,is⟩ := Option.bind_eq_some_iff.mp read
    exact (each.found given found).setContent v is
  · exact scalar_proper read

theorem setOfParts_proper {parts : Json.Parts Reading} (each : parts.Each Reading.Proper)
    {v : Value} (read : setOfParts? origin parts = some v) : ∀ t ∈ v.instants, t.Proper := by
  obtain ⟨fields,given,read⟩ := Option.bind_eq_some_iff.mp read
  obtain ⟨_,-,read⟩ := Option.bind_eq_some_iff.mp read
  obtain ⟨type,-,read⟩ := Option.bind_eq_some_iff.mp read
  obtain ⟨content,found,read⟩ := Option.bind_eq_some_iff.mp read
  obtain ⟨elements,are,read⟩ := Option.bind_eq_some_iff.mp read
  cases read
  rw [instants_set]
  intro t listed
  obtain ⟨v,member,inside⟩ := List.mem_flatMap.mp listed
  exact (each.found given found).elements elements are v member t inside

theorem elementsOf_proper {parts : Json.Parts Reading} (each : parts.Each Reading.Proper)
    {vs : List Value} (read : elementsOf? parts = some vs) :
    ∀ v ∈ vs, ∀ t ∈ v.instants, t.Proper := by
  intro v listed
  cases parts with
  | members given => cases read
  | items readings =>
      obtain ⟨r,member,is⟩ := Json.mem_mapM read v listed
      exact (each r member).value v is

theorem read_proper (j : Json) : (read origin j).Proper := by
  refine Json.readBy_each (fun j parts each => ⟨?_,?_,?_⟩) j
  · intro v is
    obtain ⟨given,some,read⟩ := Option.bind_eq_some_iff.mp is
    exact ofParts_proper (each given some) read
  · intro vs are
    obtain ⟨given,some,read⟩ := Option.bind_eq_some_iff.mp are
    exact elementsOf_proper (each given some) read
  · intro v is
    obtain ⟨given,some,read⟩ := Option.bind_eq_some_iff.mp is
    exact setOfParts_proper (each given some) read

end Read

end Value

end OlapQuery
