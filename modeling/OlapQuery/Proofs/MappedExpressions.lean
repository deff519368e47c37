import OlapQuery.Proofs.ExpressionForm
import OlapQuery.Proofs.MappedValues

-- Expressions whose texts are changed. Where texts without a dollar stay as they are, the JSON form with
-- its texts changed is read as the expression with its texts changed: the operations, and how they are
-- put together, stay.

namespace OlapQuery

open Json (Keeps)

namespace Table

variable {α β : Type}

theorem insert_map (g : α → β) (name : String) (a : α) (table : Table α) :
    insert name (g a) (table.map fun entry => (entry.1,g entry.2)) =
      (insert name a table).map fun entry => (entry.1,g entry.2) := by
  induction table with
  | nil => rfl
  | cons entry rest ih =>
      rw [List.map_cons,insert,insert]
      split
      · rfl
      · split
        · rfl
        · rw [ih]
          rfl

theorem ofList_map (g : α → β) (entries : List (String × α)) :
    ofList (entries.map fun entry => (entry.1,g entry.2)) =
      (ofList entries).map fun entry => (entry.1,g entry.2) := by
  have each (table : Table α) :
      (entries.map fun entry => (entry.1,g entry.2)).foldl (fun table entry =>
          insert entry.1 entry.2 table) (table.map fun entry => (entry.1,g entry.2)) =
        (entries.foldl (fun table entry => insert entry.1 entry.2 table) table).map
          fun entry => (entry.1,g entry.2) := by
    induction entries generalizing table with
    | nil => rfl
    | cons entry rest ih =>
        rw [List.map_cons,List.foldl_cons,List.foldl_cons]
        dsimp only
        rw [insert_map,ih]
  exact each []

end Table

section Changes

-- Changes the texts that an operation carries, and those of an expression but for the names of keys.
def UnaryOp.mapTexts (f : String → String) : UnaryOp → UnaryOp
  | .customAggregate name => .customAggregate (f name)
  | .regexMatch pattern => .regexMatch (f pattern)
  | .extract pattern => .extract (f pattern)
  | .lookup name => .lookup (f name)
  | other => other

def BinaryOp.mapTexts (f : String → String) : BinaryOp → BinaryOp
  | .apply name => .apply (f name)
  | other => other

mutual
def Expr.mapTexts (f : String → String) : Expr → Expr
  | .literal v => .literal (v.mapTexts f)
  | .ref name => .ref (f name)
  | .ply => .ply
  | .unary op e => .unary (op.mapTexts f) (mapTexts f e)
  | .binary op e x => .binary (op.mapTexts f) (mapTexts f e) (mapTexts f x)
  | .junction op es => .junction op (mapAllTexts f es)
  | .split e keys dataName => .split (mapTexts f e) (mapKeyTexts f keys) (f dataName)

def Expr.mapAllTexts (f : String → String) : List Expr → List Expr
  | [] => []
  | e :: rest => mapTexts f e :: mapAllTexts f rest

def Expr.mapKeyTexts (f : String → String) : List (String × Expr) → List (String × Expr)
  | [] => []
  | (name,e) :: rest => (name,mapTexts f e) :: mapKeyTexts f rest
end

end Changes

namespace Expr

variable {f : String → String}

@[simp] theorem mapAllTexts_map (es : List Expr) : mapAllTexts f es = es.map (mapTexts f) := by
  induction es with
  | nil => rfl
  | cons e rest ih => rw [mapAllTexts,ih,List.map_cons]

@[simp] theorem mapKeyTexts_map (keys : List (String × Expr)) :
    mapKeyTexts f keys = keys.map fun key => (key.1,key.2.mapTexts f) := by
  induction keys with
  | nil => rfl
  | cons key rest ih => rw [mapKeyTexts,ih,List.map_cons]

-- What a piece of JSON stands for is what the changed piece stands for, changed likewise.
structure Mapped (zones : Time.Zone.Database) (f : String → String) (j : Json) : Prop where
  expr : ∀ e, (read zones j).expr = some e → (read zones (j.mapTexts f)).expr = some (e.mapTexts f)
  operands : ∀ es, (read zones j).operands = some es →
    (read zones (j.mapTexts f)).operands = some (es.map (mapTexts f))
  keys : ∀ keys, (read zones j).keys = some keys →
    (read zones (j.mapTexts f)).keys = some (keys.map fun key => (key.1,key.2.mapTexts f))

variable {zones : Time.Zone.Database}

section Fields

variable {fields : List (String × Json)} {name : String}

def changed (f : String → String) (fields : List (String × Json)) : List (String × Json) :=
  fields.map fun field => (field.1,field.2.mapTexts f)

theorem lookup_changed (fields : List (String × Json)) (name : String) :
    List.lookup name (changed f fields) = (List.lookup name fields).map (Json.mapTexts f) :=
  Table.lookup_map (Json.mapTexts f) fields name

theorem lookup_members (fields : List (String × Json)) (name : String) :
    List.lookup name (Json.readMembers (reading zones) fields) = (List.lookup name fields).map (read zones) := by
  rw [Json.readMembers_map,Table.lookup_map]

theorem json_members (fields : List (String × Json)) (name : String) :
    Members.json? (Json.readMembers (reading zones) fields) name = List.lookup name fields := by
  have same : ((fun r => r.json) ∘ read zones) = id := funext fun j => read_json j
  rw [Members.json?,lookup_members,Option.map_map,same,Option.map_id]
  rfl

theorem need_changed {α : Type} {decode : Json → Option α} {a : α} (keeps : Keeps f decode)
    (found : Members.need (Json.readMembers (reading zones) fields) name decode = some a) :
    Members.need (Json.readMembers (reading zones) (changed f fields)) name decode = some a := by
  rw [Members.need,json_members] at found ⊢
  obtain ⟨j,given,decoded⟩ := Option.bind_eq_some_iff.mp found
  rw [lookup_changed,given]
  exact keeps j a decoded

theorem need_text {s : String} (found : Members.need (Json.readMembers (reading zones) fields) name Json.str? = some s) :
    Members.need (Json.readMembers (reading zones) (changed f fields)) name Json.str? = some (f s) := by
  rw [Members.need,json_members] at found ⊢
  obtain ⟨j,given,decoded⟩ := Option.bind_eq_some_iff.mp found
  rw [lookup_changed,given]
  cases j with
  | str t => cases decoded; rfl
  | _ => cases decoded

theorem expr_changed (each : ∀ field ∈ fields, Mapped zones f field.2) {e : Expr}
    (found : Members.expr? (Json.readMembers (reading zones) fields) name = some e) :
    Members.expr? (Json.readMembers (reading zones) (changed f fields)) name = some (e.mapTexts f) := by
  rw [Members.expr?,lookup_members] at found ⊢
  obtain ⟨_,given,stands⟩ := Option.bind_eq_some_iff.mp found
  obtain ⟨j,here,rfl⟩ := Option.map_eq_some_iff.mp given
  rw [lookup_changed,here]
  exact (each _ (Table.lookup_mem here)).expr e stands

theorem zone_changed (fixed : FixesDollarless f) {zone : Option Time.Zone}
    (found : Members.zone? zones (Json.readMembers (reading zones) fields) = some zone) :
    Members.zone? zones (Json.readMembers (reading zones) (changed f fields)) = some zone := by
  rw [Members.zone?,json_members] at found ⊢
  rw [lookup_changed]
  exact Json.optional_map (Json.keeps_text fixed (Time.Zone.parse_dollarless zones)) found

end Fields

section Operations

variable {fields : List (String × Json)} {name : String}

theorem nat64_keeps : Keeps f Json.nat64? :=
  Json.keeps_scalar (fun _ => rfl) (fun _ => rfl) fun _ => rfl

theorem int64_keeps : Keeps f Json.int64? :=
  Json.keeps_scalar (fun _ => rfl) (fun _ => rfl) fun _ => rfl

theorem int32_keeps : Keeps f Json.int32? :=
  Json.keeps_scalar (fun _ => rfl) (fun _ => rfl) fun _ => rfl

theorem parse_direction : Dollarless Direction.parse? := by
  intro text direction parsed
  unfold Direction.parse? at parsed
  split at parsed
  · decide
  · decide
  · cases parsed

theorem duration_keeps (fixed : FixesDollarless f) : Keeps f Json.duration? :=
  Json.keeps_text fixed Time.Duration.parse_dollarless

theorem withDefault_changed {α : Type} {decode : Json → Option α} {default a : α}
    (keeps : Keeps f decode)
    (found : Json.withDefault default decode (Members.json? (Json.readMembers (reading zones) fields) name) = some a) :
    Json.withDefault default decode (Members.json? (Json.readMembers (reading zones) (changed f fields)) name) =
      some a := by
  rw [json_members] at found ⊢
  rw [lookup_changed]
  cases given : List.lookup name fields with
  | none => rw [given] at found; exact found
  | some j => rw [given] at found; exact keeps j a found

theorem unaryOp_changed (fixed : FixesDollarless f) {op : UnaryOp}
    (found : unaryOp? zones name (Json.readMembers (reading zones) fields) = some op) :
    unaryOp? zones name (Json.readMembers (reading zones) (changed f fields)) = some (op.mapTexts f) := by
  have parts := Json.keeps_choice fixed .kept Time.Part.parse_dollarless
  unfold unaryOp? at found
  split at found
  · obtain ⟨n,is,rfl⟩ := Option.map_eq_some_iff.mp found
    exact Option.map_eq_some_iff.mpr ⟨n,need_changed nat64_keeps is,rfl⟩
  · cases found
    rfl
  · obtain ⟨s,is,rfl⟩ := Option.map_eq_some_iff.mp found
    exact Option.map_eq_some_iff.mpr ⟨f s,need_text is,rfl⟩
  · cases found
    rfl
  · cases found
    rfl
  · obtain ⟨s,is,rfl⟩ := Option.map_eq_some_iff.mp found
    exact Option.map_eq_some_iff.mpr ⟨f s,need_text is,rfl⟩
  · obtain ⟨position,is,found⟩ := Option.bind_eq_some_iff.mp found
    obtain ⟨len,also,same⟩ := Option.bind_eq_some_iff.mp found
    cases same
    refine Option.bind_eq_some_iff.mpr ⟨position,need_changed int64_keeps is,?_⟩
    exact Option.bind_eq_some_iff.mpr ⟨len,need_changed int64_keeps also,rfl⟩
  · obtain ⟨s,is,rfl⟩ := Option.map_eq_some_iff.mp found
    exact Option.map_eq_some_iff.mpr ⟨f s,need_text is,rfl⟩
  · obtain ⟨s,is,rfl⟩ := Option.map_eq_some_iff.mp found
    exact Option.map_eq_some_iff.mpr ⟨f s,need_text is,rfl⟩
  · obtain ⟨duration,is,found⟩ := Option.bind_eq_some_iff.mp found
    obtain ⟨zone,zoned,same⟩ := Option.bind_eq_some_iff.mp found
    cases same
    refine Option.bind_eq_some_iff.mpr ⟨duration,need_changed (duration_keeps fixed) is,?_⟩
    exact Option.bind_eq_some_iff.mpr ⟨zone,zone_changed fixed zoned,rfl⟩
  · obtain ⟨duration,is,found⟩ := Option.bind_eq_some_iff.mp found
    obtain ⟨zone,zoned,same⟩ := Option.bind_eq_some_iff.mp found
    cases same
    refine Option.bind_eq_some_iff.mpr ⟨duration,need_changed (duration_keeps fixed) is,?_⟩
    exact Option.bind_eq_some_iff.mpr ⟨zone,zone_changed fixed zoned,rfl⟩
  · obtain ⟨part,is,found⟩ := Option.bind_eq_some_iff.mp found
    obtain ⟨zone,zoned,same⟩ := Option.bind_eq_some_iff.mp found
    cases same
    refine Option.bind_eq_some_iff.mpr ⟨part,need_changed parts is,?_⟩
    exact Option.bind_eq_some_iff.mpr ⟨zone,zone_changed fixed zoned,rfl⟩
  · obtain ⟨duration,is,found⟩ := Option.bind_eq_some_iff.mp found
    obtain ⟨step,moved,found⟩ := Option.bind_eq_some_iff.mp found
    obtain ⟨zone,zoned,same⟩ := Option.bind_eq_some_iff.mp found
    cases same
    refine Option.bind_eq_some_iff.mpr ⟨duration,need_changed (duration_keeps fixed) is,?_⟩
    refine Option.bind_eq_some_iff.mpr ⟨step,need_changed int32_keeps moved,?_⟩
    exact Option.bind_eq_some_iff.mpr ⟨zone,zone_changed fixed zoned,rfl⟩
  · obtain ⟨size,is,found⟩ := Option.bind_eq_some_iff.mp found
    obtain ⟨offset,also,same⟩ := Option.bind_eq_some_iff.mp found
    cases same
    refine Option.bind_eq_some_iff.mpr ⟨size,need_changed Json.number_keeps is,?_⟩
    exact Option.bind_eq_some_iff.mpr ⟨offset,withDefault_changed Json.number_keeps also,rfl⟩
  · obtain ⟨type,is,rfl⟩ := Option.map_eq_some_iff.mp found
    exact Option.map_eq_some_iff.mpr ⟨type,need_changed (Json.type_keeps fixed .kept) is,rfl⟩
  · cases found

theorem binaryOp_changed (fixed : FixesDollarless f) {op : BinaryOp}
    (found : binaryOp? name (Json.readMembers (reading zones) fields) = some op) :
    binaryOp? name (Json.readMembers (reading zones) (changed f fields)) = some (op.mapTexts f) := by
  have directions := Json.keeps_choice fixed .kept parse_direction
  unfold binaryOp? at found
  split at found
  case h_2 =>
    obtain ⟨s,is,rfl⟩ := Option.map_eq_some_iff.mp found
    exact Option.map_eq_some_iff.mpr ⟨f s,need_text is,rfl⟩
  case h_3 =>
    obtain ⟨direction,is,rfl⟩ := Option.map_eq_some_iff.mp found
    exact Option.map_eq_some_iff.mpr ⟨direction,need_changed directions is,rfl⟩
  case h_21 =>
    obtain ⟨ignoreCase,is,rfl⟩ := Option.map_eq_some_iff.mp found
    exact Option.map_eq_some_iff.mpr ⟨ignoreCase,withDefault_changed Json.bool_keeps is,rfl⟩
  all_goals
    cases found
    try rfl

theorem unaryOp_named {members : Members} {op : UnaryOp} (found : unaryOp? zones name members = some op) :
    name = op.name := by
  unfold unaryOp? at found
  split at found
  all_goals
    try simp only [Option.bind_eq_bind,Option.bind_eq_some_iff,Option.map_eq_some_iff] at found
    grind [UnaryOp.name]

theorem binaryOp_named {members : Members} {op : BinaryOp} (found : binaryOp? name members = some op) :
    name = op.name := by
  unfold binaryOp? at found
  split at found
  all_goals
    try simp only [Option.map_eq_some_iff] at found
    grind [BinaryOp.name]

theorem ofMembers_changed (fixed : FixesDollarless f) (each : ∀ field ∈ fields, Mapped zones f field.2)
    {e : Expr} (found : ofMembers? zones name (Json.readMembers (reading zones) fields) = some e) :
    ofMembers? zones name (Json.readMembers (reading zones) (changed f fields)) = some (e.mapTexts f) := by
  have operands (es : List Expr)
      (found : (List.lookup "operands" (Json.readMembers (reading zones) fields)).bind (fun r => r.operands) = some es) :
      (List.lookup "operands" (Json.readMembers (reading zones) (changed f fields))).bind (fun r => r.operands) =
        some (es.map (mapTexts f)) := by
    rw [lookup_members] at found ⊢
    obtain ⟨_,given,stand⟩ := Option.bind_eq_some_iff.mp found
    obtain ⟨j,here,rfl⟩ := Option.map_eq_some_iff.mp given
    rw [lookup_changed,here]
    exact (each _ (Table.lookup_mem here)).operands es stand
  have whole := found
  unfold ofMembers? at found
  split at found
  · obtain ⟨v,is,rfl⟩ := Option.map_eq_some_iff.mp found
    rw [Members.need,json_members] at is
    obtain ⟨j,given,decoded⟩ := Option.bind_eq_some_iff.mp is
    refine Option.map_eq_some_iff.mpr ⟨v.mapTexts f,?_,by rw [mapTexts]⟩
    rw [Members.need,json_members,lookup_changed,given]
    exact (Value.read_mapped fixed j).value v decoded
  · obtain ⟨s,is,rfl⟩ := Option.map_eq_some_iff.mp found
    exact Option.map_eq_some_iff.mpr ⟨f s,need_text is,by rw [mapTexts]⟩
  · cases found
    rw [mapTexts]
    rfl
  · obtain ⟨es,are,rfl⟩ := Option.map_eq_some_iff.mp found
    exact Option.map_eq_some_iff.mpr ⟨_,operands es are,by rw [mapTexts,mapAllTexts_map]⟩
  · obtain ⟨es,are,rfl⟩ := Option.map_eq_some_iff.mp found
    exact Option.map_eq_some_iff.mpr ⟨_,operands es are,by rw [mapTexts,mapAllTexts_map]⟩
  · obtain ⟨operand,is,found⟩ := Option.bind_eq_some_iff.mp found
    obtain ⟨keys,are,found⟩ := Option.bind_eq_some_iff.mp found
    obtain ⟨dataName,named,same⟩ := Option.bind_eq_some_iff.mp found
    cases same
    rw [lookup_members] at are
    obtain ⟨_,given,stand⟩ := Option.bind_eq_some_iff.mp are
    obtain ⟨j,here,rfl⟩ := Option.map_eq_some_iff.mp given
    refine Option.bind_eq_some_iff.mpr ⟨_,expr_changed each is,?_⟩
    refine Option.bind_eq_some_iff.mpr ⟨keys.map fun key => (key.1,key.2.mapTexts f),?_,?_⟩
    · rw [lookup_members,lookup_changed,here]
      exact (each _ (Table.lookup_mem here)).keys keys stand
    · refine Option.bind_eq_some_iff.mpr ⟨_,need_text named,?_⟩
      rw [mapTexts,mapKeyTexts_map]
  · split at found
    · rename_i one _ is
      obtain ⟨operand,stands,rfl⟩ := Option.map_eq_some_iff.mp found
      have is := unaryOp_changed fixed is
      have named := unaryOp_named is
      rw [named] at is ⊢
      rw [ofMembers_unary is,expr_changed each stands,mapTexts]
      rfl
    · rename_i two _ is
      obtain ⟨operand,stands,found⟩ := Option.bind_eq_some_iff.mp found
      obtain ⟨expression,also,same⟩ := Option.bind_eq_some_iff.mp found
      cases same
      have is := binaryOp_changed fixed is
      have named := binaryOp_named is
      rw [named] at is ⊢
      rw [ofMembers_binary is,expr_changed each stands,expr_changed each also,mapTexts]
      rfl
    · cases found

end Operations

section Records

variable {parts : Json.Parts Json} {e : Expr}

theorem operations_dollarless : ∀ op ∈ operations, '$' ∉ op.toList := by
  decide

theorem kind_keeps (fixed : FixesDollarless f) (origin : Json.Origin) :
    Keeps f (Json.kind? origin operations) := by
  intro j kind found
  cases j with
  | str s =>
      obtain ⟨listed,same⟩ := Option.ite_none_right_eq_some.mp found
      cases same
      have inside : kind ∈ operations := by simpa using listed
      rw [Json.mapTexts_str,fixed kind (operations_dollarless kind inside)]
      exact found
  | arr items => cases found
  | obj fields => cases found
  | _ => exact found

theorem ofParts_changed (fixed : FixesDollarless f) (origin : Json.Origin)
    (each : parts.Each (Mapped zones f)) (found : ofParts? zones origin (parts.map (read zones)) = some e) :
    ofParts? zones origin ((parts.map (Json.mapTexts f)).map (read zones)) = some (e.mapTexts f) := by
  obtain ⟨⟨_,_⟩,tagged,found⟩ := Option.bind_eq_some_iff.mp found
  rw [Json.Parts.tagged_map] at tagged
  obtain ⟨⟨tag,body⟩,tags,same⟩ := Option.map_eq_some_iff.mp tagged
  cases same
  obtain ⟨op,kind,found⟩ := Option.bind_eq_some_iff.mp found
  obtain ⟨_,given,found⟩ := Option.bind_eq_some_iff.mp found
  rw [Json.Parts.fields_map] at given
  obtain ⟨fields,own,rfl⟩ := Option.map_eq_some_iff.mp given
  rw [read_json] at kind
  rw [← Json.readMembers_map] at found
  refine Option.bind_eq_some_iff.mpr
    ⟨_,by rw [Json.Parts.tagged_map,Json.Parts.tagged_map,tags]; rfl,?_⟩
  refine Option.bind_eq_some_iff.mpr ⟨op,?_,?_⟩
  · rw [read_json]
    exact kind_keeps fixed origin tag op kind
  · refine Option.bind_eq_some_iff.mpr
      ⟨_,by rw [Json.Parts.fields_map,Json.Parts.fields_map,own]; rfl,?_⟩
    have changes := ofMembers_changed fixed ((each.tagged tags).2.fields own) found
    rwa [Json.readMembers_map] at changes

theorem keysOfMembers_changed {fields : List (String × Json)} {keys : List (String × Expr)}
    (each : ∀ field ∈ fields, Mapped zones f field.2)
    (found : keysOfMembers? (Json.readMembers (reading zones) fields) = some keys) :
    keysOfMembers? (Json.readMembers (reading zones) (changed f fields)) =
      some (keys.map fun key => (key.1,key.2.mapTexts f)) := by
  obtain ⟨entries,are,rfl⟩ := Option.map_eq_some_iff.mp found
  rw [Json.readMembers_map,List.mapM_map] at are
  rw [← Table.ofList_map]
  refine Option.map_eq_some_iff.mpr ⟨_,?_,rfl⟩
  rw [Json.readMembers_map,changed,List.map_map,List.mapM_map]
  refine Json.mapM_changed (fun field listed entry stands => ?_) are
  obtain ⟨e,is,rfl⟩ := Option.map_eq_some_iff.mp stands
  exact Option.map_eq_some_iff.mpr ⟨_,(each field listed).expr e is,rfl⟩

theorem operandsOf_changed {es : List Expr} (each : parts.Each (Mapped zones f))
    (found : operandsOf? (parts.map (read zones)) = some es) :
    operandsOf? ((parts.map (Json.mapTexts f)).map (read zones)) = some (es.map (mapTexts f)) := by
  rw [Json.Parts.map_map]
  cases parts with
  | items items =>
      rw [Json.Parts.map,operandsOf?,List.mapM_map] at found ⊢
      exact Json.mapM_changed (fun j listed => (each j listed).expr) found
  | members fields => cases found

theorem keysOf_changed {keys : List (String × Expr)} (each : parts.Each (Mapped zones f))
    (found : keysOf? (parts.map (read zones)) = some keys) :
    keysOf? ((parts.map (Json.mapTexts f)).map (read zones)) =
      some (keys.map fun key => (key.1,key.2.mapTexts f)) := by
  cases parts with
  | items items => cases found
  | members fields =>
      rw [Json.Parts.map,keysOf?,← Json.readMembers_map] at found
      rw [Json.Parts.map,Json.Parts.map,keysOf?,← Json.readMembers_map]
      exact keysOfMembers_changed each found

end Records

theorem read_mapped (fixed : FixesDollarless f) (j : Json) : Mapped zones f j := by
  induction j using Json.parts_induction with
  | step j each =>
      cases are : j.parts? with
      | none =>
          have plain : read zones j = reading zones j none := by
            rw [read,Json.readBy_parts,are]
            rfl
          refine ⟨?_,?_,?_⟩ <;> rw [plain] <;> nofun
      | some parts =>
          have before : read zones j = reading zones j (some (parts.map (read zones))) := by
            rw [read,Json.readBy_parts,are]
            rfl
          have after : read zones (j.mapTexts f) = reading zones (j.mapTexts f)
              (some ((parts.map (Json.mapTexts f)).map (read zones))) := by
            rw [read,Json.readBy_parts,Json.parts_map,are]
            rfl
          refine ⟨?_,?_,?_⟩ <;> rw [before,after]
          · exact fun e => ofParts_changed fixed .kept (each parts are)
          · exact fun es => operandsOf_changed (each parts are)
          · exact fun keys => keysOf_changed (each parts are)

theorem ofJson_changed (fixed : FixesDollarless f) {j : Json} {e : Expr}
    (decoded : ofJson? zones j = some e) : ofJson? zones (j.mapTexts f) = some (e.mapTexts f) := by
  unfold ofJson? at decoded
  split at decoded
  · rename_i fields
    have each : (Json.Parts.members fields).Each (Mapped zones f) := fun field _ =>
      read_mapped fixed field.2
    rw [Json.readMembers_map] at decoded
    have changes := ofParts_changed fixed .document each decoded
    rw [Json.mapTexts_obj,ofJson?,Json.readMembers_map]
    exact changes
  · rename_i items
    have each : (Json.Parts.items items).Each (Mapped zones f) := fun item _ =>
      read_mapped fixed item
    rw [Json.readItems_map] at decoded
    have changes := ofParts_changed fixed .document each decoded
    rw [Json.mapTexts_arr,ofJson?,Json.readItems_map]
    exact changes
  · cases decoded

end Expr

end OlapQuery
