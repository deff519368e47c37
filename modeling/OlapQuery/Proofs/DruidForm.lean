import OlapQuery.Druid.Decode
import OlapQuery.Druid.Encode
import OlapQuery.Json.Parser
import OlapQuery.Proofs.ClosedQueries
import OlapQuery.Proofs.JsonRecords

-- The JSON form of Druid queries is read back as the query, but for aggregators in the engine's
-- own form: those are read as native ones where they can be.

namespace OlapQuery.Druid

open Json (given)

section Order

@[simp] theorem orderedItems_map (items : List Json) :
    Json.orderedItems items = items.map Json.ordered := by
  induction items with
  | nil => rfl
  | cons j rest ih => rw [Json.orderedItems,ih,List.map_cons]

@[simp] theorem orderedFields_map (fields : List (String × Json)) :
    Json.orderedFields fields = fields.map fun field => (field.1,field.2.ordered) := by
  induction fields with
  | nil => rfl
  | cons field rest ih => rw [Json.orderedFields,ih,List.map_cons]

theorem ordered_get {fields : List (String × Json)} (distinct : (fields.map (·.1)).Nodup)
    (name : String) :
    (Json.obj fields).ordered.get? name = (List.lookup name fields).map Json.ordered := by
  have names : ((fields.map fun field => (field.1,field.2.ordered)).map (·.1)).Nodup := by
    rwa [List.map_map]
  rw [Json.ordered,orderedFields_map,Json.get?,Table.lookup_ofList names,Table.lookup_map]

end Order

section Plain

@[simp] theorem strings_ofStrings (items : List String) :
    strings? (Json.ofStrings items) = some items := by
  have each : ∀ s ∈ items, (Json.str s).str? = some s := fun _ _ => rfl
  change (items.map Json.str).mapM Json.str? = _
  rw [List.mapM_map]
  exact (Json.mapM_some each).trans (congrArg some (List.map_id' items))

theorem Intervals.ofJson_toJson (i : Intervals) : Intervals.ofJson? i.toJson = some i := by
  cases i with
  | one interval => rfl
  | many intervals =>
      change (strings? (Json.ofStrings intervals)).map many = _
      rw [strings_ofStrings,Option.map_some]

theorem Granularity.ofJson_toJson (g : Granularity) : Granularity.ofJson? g.toJson = some g := by
  cases g <;> rfl

theorem stringTable_ofTable (entries : Table String) :
    stringTable? (Json.ofTable .str entries) = some entries := by
  have each : ∀ entry ∈ entries, (Json.str entry.2).str?.map (fun s => (entry.1,s)) = some entry :=
    fun _ _ => rfl
  change (entries.map fun entry => (entry.1,Json.str entry.2)).mapM _ = _
  rw [List.mapM_map]
  exact (Json.mapM_some each).trans (congrArg some (List.map_id' entries))

theorem Lookup.ofJson_toJson (l : Lookup) : Lookup.ofJson? l.toJson = some l := by
  cases l with
  | registered name => rfl
  | map entries =>
      change (stringTable? (Json.ofTable .str entries)).map map = _
      rw [stringTable_ofTable,Option.map_some]

theorem ExtractionFn.ofJson_toJson (f : ExtractionFn) : ExtractionFn.ofJson? f.toJson = some f := by
  cases f with
  | regex expr replaceMissing replacement => cases replacement <;> rfl
  | substring index length =>
      have position := Json.int64_written index
      cases length with
      | none =>
          change ((Json.int index.toInt).int64?).bind (fun i => some (substring i.toInt64 none)) = _
          rw [position,Option.bind_some]
          exact congrArg (fun i => some (substring i none)) (Int64.ofInt_toInt index)
      | some length =>
          change ((Json.int index.toInt).int64?).bind (fun i =>
            (((Json.int length.toInt).int64?).map some).bind fun l =>
              some (substring i.toInt64 (l.map Int.toInt64))) = _
          rw [position,Json.int64_written length,Option.bind_some,Option.map_some,Option.bind_some,
            Option.map_some]
          exact congrArg₂ (fun i l => some (substring i (some l))) (Int64.ofInt_toInt index)
            (Int64.ofInt_toInt length)
  | lookup lookup replacement =>
      have found := lookup.ofJson_toJson
      cases replacement with
      | none =>
          change (Lookup.ofJson? lookup.toJson).bind (fun l => some (ExtractionFn.lookup l none)) = _
          rw [found,Option.bind_some]
      | some replacement =>
          change (Lookup.ofJson? lookup.toJson).bind (fun l => some (ExtractionFn.lookup l (some replacement))) = _
          rw [found,Option.bind_some]
  | timeFormat format locale timeZone => rfl
  | javascript function injective => cases injective <;> rfl

theorem Dimension.ofJson_toJson (d : Dimension) : Dimension.ofJson? d.toJson = some d := by
  obtain ⟨dimension,outputName,extraction⟩ := d
  cases extraction with
  | none => rfl
  | some function =>
      change (ExtractionFn.ofJson? function.toJson).bind (fun f =>
        some { dimension,outputName,extraction := some f : Dimension }) = _
      rw [function.ofJson_toJson,Option.bind_some]

theorem OrderByColumn.ofJson_toJson (c : OrderByColumn) : OrderByColumn.ofJson? c.toJson = some c := by
  cases c with
  | name output => rfl
  | spec dimension direction dimensionOrder => cases dimensionOrder <;> rfl

theorem LimitSpec.ofJson_toJson (l : LimitSpec) : LimitSpec.ofJson? l.toJson = some l := by
  obtain ⟨limit,columns⟩ := l
  have each : (columns.map OrderByColumn.toJson).mapM OrderByColumn.ofJson? = some columns := by
    rw [List.mapM_map]
    exact (Json.mapM_some fun c _ => c.ofJson_toJson).trans (congrArg some (List.map_id' columns))
  change ((Json.int limit.toNat).nat64?).bind (fun n =>
    ((columns.map OrderByColumn.toJson).mapM OrderByColumn.ofJson?).bind fun columns =>
      some { limit := n.toUInt64,columns : LimitSpec }) = _
  rw [Json.nat64_written,each,Option.bind_some,Option.bind_some]
  exact congrArg (fun n => some (LimitSpec.mk n columns)) UInt64.ofNat_toNat

end Plain

section Nested

@[simp] theorem read_json (j : Json) : (read j).json = j :=
  @Json.readBy_keeps _ _ reading _ id (fun _ parts => by rcases parts with _ | _ | _ <;> rfl) j

theorem json_given {members : List (String × Option Json)} (distinct : (members.map (·.1)).Nodup)
    (name : String) :
    Fields.json? (Json.readMembers reading (given members)) name = (List.lookup name members).bind id := by
  rw [Fields.json?,Json.readMembers_map,Table.lookup_map,Json.lookup_given distinct,Option.map_map]
  exact (congrArg (Option.map · _) (funext read_json)).trans Option.map_id'

theorem optional_string (s : Option String) : Json.optional Json.str? (s.map .str) = some s := by
  cases s <;> rfl

theorem flag_given (b : Bool) :
    Json.withDefault false Json.bool? (if b then some (.bool true) else none) = some b := by
  cases b <;> rfl

theorem tagged_given {kinds : List String} {kind : String} (known : kinds.contains kind = true)
    (shape : String → Json.Shape) {members : List (String × Option Json)}
    (distinct : ("type" :: members.map (·.1)).Nodup) :
    taggedFields? kinds shape (.members (Json.readMembers reading (("type",.str kind) :: given members)))
      = some (kind,Json.readMembers reading (given members)) := by
  obtain ⟨apart,once⟩ := List.nodup_cons.mp distinct
  have names : ((Json.readMembers reading (given members)).map (·.1)).Sublist (members.map (·.1)) := by
    rw [Json.readMembers_map,List.map_map]
    exact Json.given_names members
  have named : (read (.str kind)).json.kind? .kept kinds = some kind := if_pos known
  rw [taggedFields?,Json.readMembers,Json.Parts.tagged_members _ fun listed => apart (names.subset listed)]
  simp only [Option.bind_eq_bind,Option.bind_some,named,
    Json.Parts.fields_members (once.sublist names)]

theorem bound_read (dimension : String) (lower upper : Option String)
    (lowerStrict upperStrict : Bool) (ordering : String) :
    (read (Filter.bound dimension lower upper lowerStrict upperStrict ordering).toJson).filter
      = some (.bound dimension lower upper lowerStrict upperStrict ordering) := by
  let members : List (String × Option Json) :=
    [("dimension",some (.str dimension)),("lower",lower.map .str),("upper",upper.map .str),
      ("lowerStrict",if lowerStrict then some (.bool true) else none),
      ("upperStrict",if upperStrict then some (.bool true) else none),
      ("ordering",some (.str ordering))]
  have once : (members.map (·.1)).Nodup := (by decide : ["dimension","lower","upper","lowerStrict",
    "upperStrict","ordering"].Nodup)
  have distinct : ("type" :: members.map (·.1)).Nodup := (by decide : ["type","dimension","lower",
    "upper","lowerStrict","upperStrict","ordering"].Nodup)
  change Filter.ofParts? (.members (Json.readMembers reading (("type",.str "bound") :: given members))) = _
  rw [Filter.ofParts?,tagged_given rfl Filter.shape distinct]
  simp only [Option.bind_eq_bind,Option.bind_some,Fields.need,Fields.optional,Fields.flag,
    json_given once]
  have low : (List.lookup "lower" members).bind id = lower.map .str := rfl
  have high : (List.lookup "upper" members).bind id = upper.map .str := rfl
  have strictLow : (List.lookup "lowerStrict" members).bind id
    = if lowerStrict then some (.bool true) else none := rfl
  have strictHigh : (List.lookup "upperStrict" members).bind id
    = if upperStrict then some (.bool true) else none := rfl
  rw [low,high,strictLow,strictHigh,optional_string,optional_string,flag_given,flag_given]
  rfl

mutual
theorem Filter.read_toJson : ∀ f : Filter, (read f.toJson).filter = some f
  | .selector dimension value => by cases value <;> rfl
  | .extraction dimension value function => by
      have applied := function.ofJson_toJson
      cases value with
      | none =>
          change (ExtractionFn.ofJson? (read function.toJson).json).bind (fun f =>
            some (Filter.extraction dimension none f)) = _
          rw [read_json,applied,Option.bind_some]
      | some value =>
          change (ExtractionFn.ofJson? (read function.toJson).json).bind (fun f =>
            some (Filter.extraction dimension (some value) f)) = _
          rw [read_json,applied,Option.bind_some]
  | .and fields => by
      change ((Json.readItems reading (Filter.allToJson fields)).mapM Reading.filter).map Filter.and = _
      rw [Filter.readItems_toJson fields,Option.map_some]
  | .or fields => by
      change ((Json.readItems reading (Filter.allToJson fields)).mapM Reading.filter).map Filter.or = _
      rw [Filter.readItems_toJson fields,Option.map_some]
  | .not field => by
      change ((read field.toJson).filter).map Filter.not = _
      rw [Filter.read_toJson field,Option.map_some]
  | .regex _ _ => rfl
  | .search dimension fragments => by
      change (strings? (Json.ofStrings fragments)).map (Filter.search dimension) = _
      rw [strings_ofStrings,Option.map_some]
  | .javascript _ _ => rfl
  | .bound dimension lower upper lowerStrict upperStrict ordering =>
      bound_read dimension lower upper lowerStrict upperStrict ordering
  | .interval dimension intervals => by
      change (strings? (Json.ofStrings intervals)).map (Filter.interval dimension) = _
      rw [strings_ofStrings,Option.map_some]

theorem Filter.readItems_toJson : ∀ fields : List Filter,
    (Json.readItems reading (Filter.allToJson fields)).mapM Reading.filter = some fields
  | [] => rfl
  | f :: rest => by
      rw [Filter.allToJson,Json.readItems,List.mapM_cons,Filter.read_toJson f,
        Filter.readItems_toJson rest]
      rfl
end

mutual
theorem PostAggregation.read_toJson : ∀ p : PostAggregation, (read p.toJson).post = some p
  | .arithmetic name function fields => by
      have operands := PostAggregation.readItems_toJson fields
      cases name with
      | none =>
          change ((Json.readItems reading (PostAggregation.allToJson fields)).mapM Reading.post).bind (fun ps =>
            some (PostAggregation.arithmetic none function ps)) = _
          rw [operands,Option.bind_some]
      | some name =>
          change ((Json.readItems reading (PostAggregation.allToJson fields)).mapM Reading.post).bind (fun ps =>
            some (PostAggregation.arithmetic (some name) function ps)) = _
          rw [operands,Option.bind_some]
  | .fieldAccess name fieldName => by cases name <;> rfl
  | .hyperUniqueCardinality name fieldName => by cases name <;> rfl
  | .constant name value => by
      cases name with
      | none => exact congrArg (fun j => some (PostAggregation.constant none j)) (read_json value)
      | some name =>
          exact congrArg (fun j => some (PostAggregation.constant (some name) j)) (read_json value)
  | .javascript name fieldNames function => by
      have names := strings_ofStrings fieldNames
      cases name with
      | none =>
          change (strings? (Json.ofStrings fieldNames)).bind (fun names =>
            some (PostAggregation.javascript none names function)) = _
          rw [names,Option.bind_some]
      | some name =>
          change (strings? (Json.ofStrings fieldNames)).bind (fun names =>
            some (PostAggregation.javascript (some name) names function)) = _
          rw [names,Option.bind_some]

theorem PostAggregation.readItems_toJson : ∀ fields : List PostAggregation,
    (Json.readItems reading (PostAggregation.allToJson fields)).mapM Reading.post = some fields
  | [] => rfl
  | p :: rest => by
      rw [PostAggregation.allToJson,Json.readItems,List.mapM_cons,PostAggregation.read_toJson p,
        PostAggregation.readItems_toJson rest]
      rfl
end

mutual
theorem HavingSpec.read_toJson : ∀ h : HavingSpec, (read h.toJson).having = some h
  | .greaterThan aggregation value =>
      congrArg (fun j => some (HavingSpec.greaterThan aggregation j)) (read_json value)
  | .lessThan aggregation value =>
      congrArg (fun j => some (HavingSpec.lessThan aggregation j)) (read_json value)
  | .equalTo aggregation value =>
      congrArg (fun j => some (HavingSpec.equalTo aggregation j)) (read_json value)
  | .and specs => by
      change ((Json.readItems reading (HavingSpec.allToJson specs)).mapM Reading.having).map HavingSpec.and = _
      rw [HavingSpec.readItems_toJson specs,Option.map_some]
  | .or specs => by
      change ((Json.readItems reading (HavingSpec.allToJson specs)).mapM Reading.having).map HavingSpec.or = _
      rw [HavingSpec.readItems_toJson specs,Option.map_some]
  | .not spec => by
      change ((read spec.toJson).having).map HavingSpec.not = _
      rw [HavingSpec.read_toJson spec,Option.map_some]

theorem HavingSpec.readItems_toJson : ∀ specs : List HavingSpec,
    (Json.readItems reading (HavingSpec.allToJson specs)).mapM Reading.having = some specs
  | [] => rfl
  | h :: rest => by
      rw [HavingSpec.allToJson,Json.readItems,List.mapM_cons,HavingSpec.read_toJson h,
        HavingSpec.readItems_toJson rest]
      rfl
end

theorem TopNMetric.read_toJson (m : TopNMetric) : (read m.toJson).metric = some m := by
  induction m with
  | name output => rfl
  | inverted metric ih =>
      change ((read metric.toJson).metric).map inverted = _
      rw [ih,Option.map_some]
  | alphaNumeric => rfl
  | lexicographic => rfl

-- An aggregator as it is read: in the engine's own form as a native one where it can be.
def Aggregation.reread : Aggregation → Aggregation
  | .custom json => (read json).aggregation
  | .filtered name filter aggregator => .filtered name filter aggregator.reread
  | a => a

theorem Aggregation.read_toJson (a : Aggregation) : (read a.toJson).aggregation = a.reread := by
  induction a with
  | count name => rfl
  | field aggregator name fieldName => cases aggregator <;> rfl
  | cardinality name fieldNames byRow =>
      change ((strings? (Json.ofStrings fieldNames)).bind fun names =>
        some (Aggregation.cardinality name names byRow)).getD _ = _
      rw [strings_ofStrings]
      rfl
  | javascript name fieldNames aggregate combine reset =>
      change ((strings? (Json.ofStrings fieldNames)).bind fun names =>
        some (Aggregation.javascript name names aggregate combine reset)).getD _ = _
      rw [strings_ofStrings]
      rfl
  | filtered name filter aggregator ih =>
      change (((read filter.toJson).filter).bind fun f =>
        some (Aggregation.filtered name f (read aggregator.toJson).aggregation)).getD _ = _
      rw [filter.read_toJson,ih]
      rfl
  | custom json => rfl

end Nested

section Queries

theorem found_given {members : List (String × Option Json)} (distinct : (members.map (·.1)).Nodup)
    {name : String} {j : Option Json} (listed : (name,j) ∈ members) :
    List.lookup name (Json.readMembers reading (given members)) = j.map read := by
  rw [Json.readMembers_map,Table.lookup_map,Json.lookup_given distinct,Table.mem_lookup distinct listed]
  rfl

variable {members : List (String × Option Json)} (distinct : (members.map (·.1)).Nodup)
include distinct

theorem member_given {name : String} {j : Option Json} (listed : (name,j) ∈ members) :
    Fields.json? (Json.readMembers reading (given members)) name = j := by
  rw [json_given distinct,Table.mem_lookup distinct listed]
  rfl

theorem need_given {α : Type} {name : String} {j : Json} (listed : (name,some j) ∈ members)
    (decode : Json → Option α) :
    Fields.need (Json.readMembers reading (given members)) name decode = decode j := by
  rw [Fields.need,member_given distinct listed,Option.bind_some]

theorem part_given {α : Type} {name : String} {a : Option α} {encode : α → Json}
    {f : Reading → Option α} (listed : (name,a.map encode) ∈ members)
    (written : ∀ b, encode b ≠ .null ∧ f (read (encode b)) = some b) :
    optionalPart (Json.readMembers reading (given members)) name f = some a := by
  rw [optionalPart,found_given distinct listed]
  cases a with
  | none => rfl
  | some b =>
      obtain ⟨given,reads⟩ := written b
      simp only [Option.map_some,read_json,reads]

theorem scan_given (s : Scan) (listed : ∀ member ∈ s.members, member ∈ members) :
    Scan.ofFields? (Json.readMembers reading (given members)) = some s := by
  obtain ⟨source,intervals,granularity,filter,-⟩ : _ ∧ _ ∧ _ ∧ _ ∧ True := by
    simpa [Scan.members] using listed
  have read : ∀ f : Filter, f.toJson ≠ .null ∧ (read f.toJson).filter = some f := fun f =>
    ⟨by cases f <;> nofun,f.read_toJson⟩
  rw [Scan.ofFields?,need_given distinct source,need_given distinct intervals,
    need_given distinct granularity,part_given distinct filter read,Intervals.ofJson_toJson,
    Granularity.ofJson_toJson]
  rfl

theorem aggregations_given (aggregations : List Aggregation)
    (listed : ("aggregations",some (.arr (aggregations.map Aggregation.toJson))) ∈ members) :
    aggregations? (Json.readMembers reading (given members)) = some (aggregations.map Aggregation.reread) := by
  have each : (Json.readItems reading (aggregations.map Aggregation.toJson)).map Reading.aggregation
      = aggregations.map Aggregation.reread := by
    rw [Json.readItems_map,List.map_map,List.map_map]
    exact List.map_congr_left fun a _ => a.read_toJson
  rw [aggregations?,Fields.pick,found_given distinct listed]
  exact congrArg some each

theorem posts_given (posts : List PostAggregation) (listed : ("postAggregations",
      if posts.isEmpty then none else some (.arr (PostAggregation.allToJson posts))) ∈ members) :
    postAggregations? (Json.readMembers reading (given members)) = some posts := by
  rw [postAggregations?,found_given distinct listed]
  cases posts with
  | nil => rfl
  | cons p rest => exact PostAggregation.readItems_toJson (p :: rest)

theorem context_given (context : Option (Table Json)) (listed : contextMember context ∈ members) :
    context? (Json.readMembers reading (given members)) = some context := by
  rw [context?,Fields.optional,member_given distinct listed]
  cases context <;> rfl

end Queries

namespace Query

def reread : Query → Query
  | .timeseries q => .timeseries { q with aggregations := q.aggregations.map Aggregation.reread }
  | .topN q => .topN { q with aggregations := q.aggregations.map Aggregation.reread }
  | .groupBy q => .groupBy { q with aggregations := q.aggregations.map Aggregation.reread }
  | q => q

theorem distinct_members (q : Query) : ("queryType" :: q.members.map (·.1)).Nodup := by
  cases q with
  | timeseries q => exact (by decide : ["queryType","dataSource","intervals","granularity","filter",
      "aggregations","postAggregations","context"].Nodup)
  | topN q => exact (by decide : ["queryType","dataSource","intervals","granularity","filter",
      "dimension","metric","threshold","aggregations","postAggregations","context"].Nodup)
  | groupBy q => exact (by decide : ["queryType","dataSource","intervals","granularity","filter",
      "dimensions","aggregations","postAggregations","having","limitSpec","context"].Nodup)
  | select q => exact (by decide : ["queryType","dataSource","intervals","granularity","filter",
      "dimensions","metrics","pagingSpec","context"].Nodup)
  | timeBoundary q => exact (by decide : ["queryType","dataSource","bound","context"].Nodup)

theorem ofFields_given (q : Query) :
    ofFields? q.queryType (Json.readMembers reading (given q.members)) = some q.reread := by
  have distinct := (List.nodup_cons.mp q.distinct_members).2
  cases q with
  | timeseries q =>
      have scan := scan_given distinct q.scan fun member listed => by simp [members,listed]
      have aggregations := aggregations_given distinct q.aggregations
        (by simp [members,aggregationMembers])
      have posts := posts_given distinct q.postAggregations (by simp [members,aggregationMembers])
      have context := context_given distinct q.context (by simp [members])
      change (context? _).bind (fun context => (Scan.ofFields? _).bind fun scan =>
        (aggregations? _).bind fun aggregations => (postAggregations? _).bind fun postAggregations =>
          some (Query.timeseries { scan,aggregations,postAggregations,context })) = _
      rw [context,scan,aggregations,posts]
      rfl
  | topN q =>
      have scan := scan_given distinct q.scan fun member listed => by simp [members,listed]
      have dimension := need_given distinct
        (show ("dimension",some q.dimension.toJson) ∈ (topN q).members by simp [members])
        Dimension.ofJson?
      have metric := found_given distinct
        (show ("metric",some q.metric.toJson) ∈ (topN q).members by simp [members])
      have threshold := need_given distinct
        (show ("threshold",some (.int q.threshold.toNat)) ∈ (topN q).members by simp [members])
        Json.nat64?
      have aggregations := aggregations_given distinct q.aggregations
        (by simp [members,aggregationMembers])
      have posts := posts_given distinct q.postAggregations (by simp [members,aggregationMembers])
      have context := context_given distinct q.context (by simp [members])
      change (context? _).bind (fun context => (Scan.ofFields? _).bind fun scan =>
        (Fields.need _ "dimension" Dimension.ofJson?).bind fun dimension =>
        (Fields.pick _ "metric" Reading.metric).bind fun metric =>
        (Fields.need _ "threshold" Json.nat64?).bind fun threshold =>
        (aggregations? _).bind fun aggregations => (postAggregations? _).bind fun postAggregations =>
          some (Query.topN { scan,dimension,metric,threshold := threshold.toUInt64,aggregations,
                             postAggregations,context })) = _
      rw [context,scan,dimension,Dimension.ofJson_toJson,Fields.pick,metric,Option.map_some,
        threshold,Json.nat64_written,aggregations,posts]
      simp only [Option.bind_some,TopNMetric.read_toJson]
      exact congrArg (fun n => some (Query.topN { q with
        threshold := n,aggregations := q.aggregations.map Aggregation.reread })) UInt64.ofNat_toNat
  | groupBy q =>
      have scan := scan_given distinct q.scan fun member listed => by simp [members,listed]
      have dimensions := need_given distinct
        (show ("dimensions",some (.arr (q.dimensions.map Dimension.toJson))) ∈ (groupBy q).members by
          simp [members])
        Json.arr?
      have each : (q.dimensions.map Dimension.toJson).mapM Dimension.ofJson? = some q.dimensions := by
        rw [List.mapM_map]
        exact (Json.mapM_some fun d _ => d.ofJson_toJson).trans
          (congrArg some (List.map_id' q.dimensions))
      have aggregations := aggregations_given distinct q.aggregations
        (by simp [members,aggregationMembers])
      have posts := posts_given distinct q.postAggregations (by simp [members,aggregationMembers])
      have having := part_given distinct
        (show ("having",q.having.map HavingSpec.toJson) ∈ (groupBy q).members by simp [members])
        fun h => ⟨(by cases h <;> nofun : h.toJson ≠ .null),h.read_toJson⟩
      have limitSpec := need_given distinct
        (show ("limitSpec",some q.limitSpec.toJson) ∈ (groupBy q).members by simp [members])
        LimitSpec.ofJson?
      have context := context_given distinct q.context (by simp [members])
      change (context? _).bind (fun context => (Scan.ofFields? _).bind fun scan =>
        (Fields.need _ "dimensions" Json.arr?).bind fun items =>
        (items.mapM Dimension.ofJson?).bind fun dimensions =>
        (aggregations? _).bind fun aggregations => (postAggregations? _).bind fun postAggregations =>
        (optionalPart _ "having" Reading.having).bind fun having =>
        (Fields.need _ "limitSpec" LimitSpec.ofJson?).bind fun limitSpec =>
          some (Query.groupBy { scan,dimensions,aggregations,postAggregations,having,limitSpec,
                                context })) = _
      rw [context,scan,dimensions,aggregations,posts,having,limitSpec,LimitSpec.ofJson_toJson]
      simp only [Option.bind_some,Json.arr?,each]
      rfl
  | select q =>
      have scan := scan_given distinct q.scan fun member listed => by simp [members,listed]
      have dimensions := need_given distinct
        (show ("dimensions",some (Json.ofStrings q.dimensions)) ∈ (select q).members by simp [members])
        strings?
      have metrics := need_given distinct
        (show ("metrics",some (Json.ofStrings q.metrics)) ∈ (select q).members by simp [members])
        strings?
      have paging := member_given distinct
        (show ("pagingSpec",some (.obj [("pagingIdentifiers",.obj q.pagingIdentifiers),
          ("threshold",.int q.threshold.toNat)])) ∈ (select q).members by simp [members])
      have context := context_given distinct q.context (by simp [members])
      change (context? _).bind (fun context => (Scan.ofFields? _).bind fun scan =>
        (Fields.need _ "dimensions" strings?).bind fun dimensions =>
        (Fields.need _ "metrics" strings?).bind fun metrics =>
        (Fields.need _ "pagingSpec" fun j => j.parts?.bind fun parts =>
          parts.fields? .kept (Json.required ["pagingIdentifiers","threshold"])).bind fun paging =>
        ((List.lookup "pagingIdentifiers" paging).bind Json.obj?).bind fun pagingIdentifiers =>
        ((List.lookup "threshold" paging).bind Json.nat64?).bind fun threshold =>
          some (Query.select { scan,dimensions,metrics,pagingIdentifiers,
                               threshold := threshold.toUInt64,context })) = _
      rw [context,scan,dimensions,metrics,strings_ofStrings,strings_ofStrings,Fields.need,paging]
      change ((Json.int q.threshold.toNat).nat64?).bind (fun threshold =>
        some (Query.select { q with threshold := threshold.toUInt64 })) = _
      rw [Json.nat64_written,Option.bind_some]
      exact congrArg (fun n => some (Query.select { q with threshold := n })) UInt64.ofNat_toNat
  | timeBoundary q =>
      have dataSource := need_given distinct
        (show ("dataSource",some (.str q.dataSource)) ∈ (timeBoundary q).members by simp [members])
        Json.str?
      have bound := member_given distinct
        (show ("bound",q.bound.map .str) ∈ (timeBoundary q).members by simp [members])
      have context := context_given distinct q.context (by simp [members])
      change (context? _).bind (fun context => (Fields.need _ "dataSource" Json.str?).bind fun source =>
        (Fields.optional _ "bound" Json.str?).bind fun bound =>
          some (Query.timeBoundary { dataSource := source,bound,context })) = _
      rw [context,dataSource,Fields.optional,bound,optional_string]
      rfl

theorem ofJson_toJson (q : Query) : ofJson? q.toJson = some q.reread := by
  obtain ⟨apart,once⟩ := List.nodup_cons.mp q.distinct_members
  have names : ((Json.readMembers reading (given q.members)).map (·.1)).Sublist (q.members.map (·.1)) := by
    rw [Json.readMembers_map,List.map_map]
    exact Json.given_names q.members
  have named : (read (.str q.queryType)).json.kind? .document kinds = some q.queryType := by
    cases q <;> rfl
  change ofParts? (.members (Json.readMembers reading (("queryType",.str q.queryType) :: given q.members))) = _
  rw [ofParts?,Json.readMembers,Json.Parts.tagged_members _ fun listed => apart (names.subset listed)]
  simp only [Option.bind_eq_bind,Option.bind_some,named,
    Json.Parts.fields_members (once.sublist names)]
  exact q.ofFields_given

end Query

section Sameness

def Aggregation.customs : Aggregation → List Json
  | .custom json => [json]
  | .filtered _ _ aggregator => aggregator.customs
  | _ => []

def Query.customs (q : Query) : List Json :=
  q.aggregations.flatMap Aggregation.customs

-- It is the same JSON after it was read, but for the order of members.
def Aggregation.Kept (a : Aggregation) : Prop :=
  a.reread.toJson.ordered = a.toJson.ordered

theorem Aggregation.kept_iff (a : Aggregation) :
    a.Kept ↔ ∀ json ∈ a.customs, (custom json).Kept := by
  induction a with
  | custom json => simp [customs]
  | filtered name filter aggregator ih =>
      rw [customs,← ih]
      constructor
      · intro same
        have inside (j : Json) : (Json.obj [("type",.str "filtered"),("name",.str name),
            ("filter",filter.toJson),("aggregator",j)]).ordered.get? "aggregator" = some j.ordered := by
          rw [ordered_get]
          · rfl
          · exact (by decide : ["type","name","filter","aggregator"].Nodup)
        have found := congrArg (fun j => Json.get? j "aggregator") same
        exact Option.some.inj ((inside _).symm.trans (found.trans (inside _)))
      · intro same
        rw [Kept] at same
        simp only [Kept,reread,toJson,Json.ordered,orderedFields_map,List.map_cons,same]
  | _ => simp [customs,Kept,reread]

namespace Query

theorem ordered_ofMembers (members : List (String × Option Json)) : (Json.ofMembers members).ordered
    = .obj (Table.ofList (given (members.map fun member => (member.1,member.2.map Json.ordered)))) := by
  rw [Json.ofMembers_given,Json.ordered,orderedFields_map]
  congr 2
  rw [given,given,List.filterMap_map,List.map_filterMap]
  congr 1
  funext member
  obtain ⟨name,j⟩ := member
  cases j <;> rfl

theorem ordered_aggregations {q : Query} (listed :
      ("aggregations",some (.arr (q.aggregations.map Aggregation.toJson))) ∈ q.members) :
    q.toJson.ordered.get? "aggregations"
      = some (.arr ((q.aggregations.map Aggregation.toJson).map Json.ordered)) := by
  have distinct : ((("queryType",some (Json.str q.queryType)) :: q.members).map (·.1)).Nodup :=
    q.distinct_members
  rw [toJson,Json.ofMembers_given,ordered_get (distinct.sublist (Json.given_names _)),
    Json.lookup_given distinct,Table.mem_lookup distinct (List.mem_cons_of_mem _ listed)]
  exact congrArg (fun items => some (Json.arr items)) (orderedItems_map _)

theorem ordered_members {as bs : List Aggregation}
    (same : (as.map Aggregation.toJson).map Json.ordered = (bs.map Aggregation.toJson).map Json.ordered)
    (posts : List PostAggregation) :
    (aggregationMembers as posts).map (fun member => (member.1,member.2.map Json.ordered))
      = (aggregationMembers bs posts).map fun member => (member.1,member.2.map Json.ordered) := by
  have items : (Json.arr (as.map Aggregation.toJson)).ordered
      = (Json.arr (bs.map Aggregation.toJson)).ordered := by
    rw [Json.ordered,Json.ordered,orderedItems_map,orderedItems_map,same]
  simp only [aggregationMembers,List.map_cons,Option.map_some,items]

-- The aggregators are all that may be read as something else.
theorem ordered_reread {q : Query}
    (same : ((q.aggregations.map Aggregation.reread).map Aggregation.toJson).map Json.ordered
      = (q.aggregations.map Aggregation.toJson).map Json.ordered) :
    q.reread.toJson.ordered = q.toJson.ordered := by
  rw [toJson,toJson,ordered_ofMembers,ordered_ofMembers]
  cases q with
  | timeseries q =>
      have exchanged := ordered_members same q.postAggregations
      simp only [reread,members,queryType,List.map_cons,List.map_append]
      simp only [aggregations] at exchanged
      rw [exchanged]
  | topN q =>
      have exchanged := ordered_members same q.postAggregations
      simp only [reread,members,queryType,List.map_cons,List.map_append]
      simp only [aggregations] at exchanged
      rw [exchanged]
  | groupBy q =>
      have exchanged := ordered_members same q.postAggregations
      simp only [reread,members,queryType,List.map_cons,List.map_append]
      simp only [aggregations] at exchanged
      rw [exchanged]
  | select q => rfl
  | timeBoundary q => rfl

theorem reread_aggregations (q : Query) :
    q.reread.aggregations = q.aggregations.map Aggregation.reread := by
  cases q <;> rfl

theorem listed_aggregations {q : Query} (some : q.aggregations ≠ []) :
    ("aggregations",.some (.arr (q.aggregations.map Aggregation.toJson))) ∈ q.members := by
  cases q with
  | timeseries q => simp [members,aggregationMembers,aggregations]
  | topN q => simp [members,aggregationMembers,aggregations]
  | groupBy q => simp [members,aggregationMembers,aggregations]
  | select q => exact (some rfl).elim
  | timeBoundary q => exact (some rfl).elim

theorem same_iff (q : Query) : q.reread.toJson.ordered = q.toJson.ordered ↔
    ∀ json ∈ q.customs, (Aggregation.custom json).Kept := by
  have each : (∀ json ∈ q.customs, (Aggregation.custom json).Kept) ↔
      ∀ a ∈ q.aggregations, a.Kept := by
    constructor
    · intro whole a listed
      exact a.kept_iff.mpr fun json inside => whole json (List.mem_flatMap_of_mem listed inside)
    · intro each json inside
      obtain ⟨a,listed,inside⟩ := List.mem_flatMap.mp inside
      exact a.kept_iff.mp (each a listed) json inside
  have pointwise : (∀ a ∈ q.aggregations, a.Kept) ↔
      ((q.aggregations.map Aggregation.reread).map Aggregation.toJson).map Json.ordered
        = (q.aggregations.map Aggregation.toJson).map Json.ordered := by
    simp only [List.map_map,List.map_inj_left,Function.comp_apply]
    rfl
  rw [each,pointwise]
  refine ⟨fun same => ?_,ordered_reread⟩
  by_cases none : q.aggregations = []
  · rw [none]
    rfl
  · have some : q.reread.aggregations ≠ [] := by simpa [reread_aggregations] using none
    have found := (ordered_aggregations (listed_aggregations some)).symm.trans
      ((congrArg (fun j => Json.get? j "aggregations") same).trans
        (ordered_aggregations (listed_aggregations none)))
    rw [reread_aggregations] at found
    injection Option.some.inj found

end Query

end Sameness

end OlapQuery.Druid
