import OlapQuery.Expr.Codec
import OlapQuery.Proofs.Checked
import OlapQuery.Proofs.SqlContents
import OlapQuery.Proofs.Structure
import OlapQuery.Proofs.Tables
import OlapQuery.Proofs.ValueForm
import OlapQuery.Time.ZoneTable

-- The JSON form of expressions is read back as the expression, and a form that was written
-- otherwise is read as an expression whose own form is read as the same.

namespace OlapQuery

open Time (Duration Zone)

theorem Json.zone_read {zones : Zone.Database} {j : Json} {zone : Zone}
    (read : j.zone? zones = some zone) : zones.find? zone.name = some zone := by
  obtain ⟨name,-,read⟩ := Option.bind_eq_some_iff.mp read
  unfold Zone.parse at read
  split at read
  · rename_i found
    cases read
    rwa [zones.named found]
  · cases read

def UnaryOp.numbers : UnaryOp → List Float
  | .numberBucket size offset => [size,offset]
  | _ => []

namespace Expr

-- Its own numbers are finite, and its own duration has a text from which it is read back.
def ReadableHere : Expr → Prop
  | .literal v => ∀ x ∈ v.numbers, x.isFinite = true
  | .unary op _ => (∀ x ∈ op.numbers, x.isFinite = true) ∧
      ∀ d ∈ op.duration?, ∃ text, d.display = .ok text ∧ Duration.parse? text = some d
  | _ => True

def Readable (e : Expr) : Prop :=
  ∀ n ∈ e.nodes, n.ReadableHere

-- Its own times are those of the calendar, its zone is known by its name, and its keys are a table.
def StoredHere (zones : Zone.Database) : Expr → Prop
  | .literal v => ∀ t ∈ v.instants, t.Proper
  | .unary op _ => ∀ zone ∈ op.zone?, zones.find? zone.name = some zone
  | .split _ keys _ => Table.Ordered keys
  | _ => True

def Stored (zones : Zone.Database) (e : Expr) : Prop :=
  ∀ n ∈ e.nodes, n.StoredHere zones

variable {zones : Zone.Database}

theorem stored_parts {e : Expr} (here : e.StoredHere zones)
    (parts : ∀ child ∈ e.children, child.Stored zones) : e.Stored zones := by
  intro n inside
  rw [nodes_children] at inside
  rcases List.mem_cons.mp inside with rfl | deeper
  · exact here
  · obtain ⟨child,part,inside⟩ := List.mem_flatMap.mp deeper
    exact parts child part n inside

theorem Readable.child {e child : Expr} (readable : e.Readable) (part : child ∈ e.children) :
    child.Readable :=
  fun n inside => readable n (child_node part n inside)

theorem Stored.child {e child : Expr} (stored : e.Stored zones) (part : child ∈ e.children) :
    child.Stored zones :=
  fun n inside => stored n (child_node part n inside)

section Members

def body : Expr → List (String × Json)
  | .literal v => [("value",v.toJson)]
  | .ref name => [("name",.str name)]
  | .ply => []
  | .unary op e => ("operand",e.toJson) :: Json.given op.members
  | .binary op e x => ("operand",e.toJson) :: ("expression",x.toJson) :: Json.given op.members
  | .junction _ es => [("operands",.arr (es.map toJson))]
  | .split e keys dataName =>
      [("operand",e.toJson),("keys",.obj (keys.map fun key => (key.1,key.2.toJson))),
        ("dataName",.str dataName)]

@[simp] theorem allToJson_map (es : List Expr) : allToJson es = es.map toJson := by
  induction es with
  | nil => rfl
  | cons e rest ih => rw [allToJson,ih,List.map_cons]

@[simp] theorem keysToJson_map (keys : List (String × Expr)) :
    keysToJson keys = keys.map fun key => (key.1,key.2.toJson) := by
  induction keys with
  | nil => rfl
  | cons key rest ih => rw [keysToJson,ih,List.map_cons]

theorem toJson_body (e : Expr) : e.toJson = .obj (("op",.str e.opName) :: e.body) := by
  cases e with
  | literal v => rfl
  | ref name => rfl
  | ply => rfl
  | unary op e => rfl
  | binary op e x => rfl
  | junction op es => rw [toJson,allToJson_map]; rfl
  | split e keys dataName => rw [toJson,keysToJson_map]; rfl

def zoneHere? : Expr → Option Zone
  | .unary op _ => op.zone?
  | _ => none

-- The operation and all its fields, but the time zone only where there is one.
def memberNames (e : Expr) : List String :=
  "op" :: ((shape e.opName).map (fun field => field.name)).filter fun name =>
    name != "timezone" || e.zoneHere?.isSome

-- What stands for an expression has a member for every one of these names, and no others.
def WritesFields (e : Expr) : Prop :=
  ∃ fields, e.toJson = .obj fields ∧ (fields.map (·.1)).Perm e.memberNames

theorem unary_names (op : UnaryOp) : "operand" :: (Json.given op.members).map (·.1)
    = ((shape op.name).map (fun field => field.name)).filter fun name =>
        name != "timezone" || op.zone?.isSome := by
  cases op with
  | timeBucket d zone => cases zone <;> rfl
  | timeFloor d zone => cases zone <;> rfl
  | timePart part zone => cases zone <;> rfl
  | timeShift d step zone => cases zone <;> rfl
  | _ => rfl

theorem body_names (e : Expr) : ("op" :: e.body.map (·.1)).Perm e.memberNames := by
  refine .cons _ ?_
  cases e with
  | unary op e => exact .of_eq (unary_names op)
  | binary op e x =>
      cases op with
      | apply name => exact .cons _ (.swap _ _ _)
      | _ => exact .refl _
  | junction op es => cases op <;> exact .refl _
  | _ => exact .refl _

theorem writes_fields (e : Expr) : e.WritesFields :=
  ⟨_,e.toJson_body,e.body_names⟩

theorem opName_listed (e : Expr) : operations.contains e.opName = true := by
  cases e with
  | unary op e => cases op <;> rfl
  | binary op e x => cases op <;> rfl
  | junction op es => cases op <;> rfl
  | _ => rfl

theorem shapes_distinct : ∀ op ∈ operations,
    ("op" :: (shape op).map (fun field => field.name)).Nodup := by
  decide

theorem distinct_names (e : Expr) : ("op" :: e.body.map (·.1)).Nodup := by
  have shaped := shapes_distinct e.opName (by simpa using e.opName_listed)
  obtain ⟨apart,once⟩ := List.nodup_cons.mp shaped
  refine e.body_names.nodup_iff.mpr (List.nodup_cons.mpr ⟨?_,once.filter _⟩)
  exact fun listed => apart (List.mem_filter.mp listed).1

end Members

section Written

@[simp] theorem read_json (j : Json) : (read zones j).json = j :=
  @Json.readBy_keeps _ _ (reading zones) _ id (fun _ _ => rfl) j

-- An expression is found in the members that stand for it.
def Decodes (zones : Zone.Database) (e : Expr) : Prop :=
  ofMembers? zones e.opName (Json.readMembers (reading zones) e.body) = some e

theorem Decodes.parts {e : Expr} (decodes : e.Decodes zones) (origin : Json.Origin) :
    ofParts? zones origin
      (.members (Json.readMembers (reading zones) (("op",.str e.opName) :: e.body))) = some e := by
  obtain ⟨apart,once⟩ := List.nodup_cons.mp e.distinct_names
  have names : (Json.readMembers (reading zones) e.body).map (·.1) = e.body.map (·.1) := by
    rw [Json.readMembers_map,List.map_map]
    rfl
  rw [← names] at apart once
  have kind : (read zones (.str e.opName)).json.kind? origin operations = some e.opName :=
    if_pos e.opName_listed
  rw [ofParts?,Json.readMembers,Json.Parts.tagged_members _ apart]
  simp only [Option.bind_eq_bind,Option.bind_some,kind]
  rw [Json.Parts.fields_members once,Option.bind_some]
  exact decodes

theorem Decodes.read {e : Expr} (decodes : e.Decodes zones) :
    (read zones e.toJson).expr = some e := by
  rw [toJson_body]
  exact decodes.parts .kept

theorem Decodes.ofJson {e : Expr} (decodes : e.Decodes zones) :
    ofJson? zones e.toJson = some e := by
  rw [toJson_body]
  exact decodes.parts .document

theorem duration_written {d : Duration}
    (read : ∃ text, d.display = .ok text ∧ Duration.parse? text = some d) :
    (Json.str d.text).duration? = some d := by
  obtain ⟨_,shown,read⟩ := read
  obtain ⟨-,rfl⟩ := Duration.display_ok.mp shown
  rw [Json.duration?,Json.str?,Option.bind_some,read]

theorem zone_given {members : Members} {zone : Option Zone}
    (known : ∀ z ∈ zone, zones.find? z.name = some z)
    (written : members.json? "timezone" = zone.map fun z => .str z.name) :
    members.zone? zones = some zone := by
  rw [Members.zone?,written]
  cases zone with
  | none => rfl
  | some z =>
      have found : (Json.str z.name).zone? zones = some z := by
        rw [Json.zone?,Json.str?,Option.bind_some,Zone.parse,known z rfl]
        rfl
      rw [Option.map_some,Json.optional,found,Option.map_some]
      intro null
      cases null

def unaryMembers (zones : Zone.Database) (op : UnaryOp) (operand : Reading) : Members :=
  ("operand",operand) :: Json.readMembers (reading zones) (Json.given op.members)

theorem unaryOp_given {op : UnaryOp} {e : Expr} (readable : (unary op e).ReadableHere)
    (stored : (unary op e).StoredHere zones) (operand : Reading) :
    unaryOp? zones op.name (unaryMembers zones op operand) = some op := by
  obtain ⟨finite,timed⟩ := readable
  cases op with
  | limit n =>
      change ((Json.int n.toNat).nat64?).map _ = _
      rw [Json.nat64_written,Option.map_some]
      exact congrArg (fun n => some (UnaryOp.limit n)) UInt64.ofNat_toNat
  | substr position len =>
      change ((Json.int position.toInt).int64?).bind (fun p =>
        ((Json.int len.toInt).int64?).bind _) = _
      rw [Json.int64_written,Option.bind_some,Json.int64_written,Option.bind_some]
      exact congrArg₂ (fun p l => some (UnaryOp.substr p l)) (Int64.ofInt_toInt position)
        (Int64.ofInt_toInt len)
  | timeBucket duration zone =>
      have zoned : (unaryMembers zones (.timeBucket duration zone) operand).zone? zones
          = some zone :=
        zone_given stored (by cases zone <;> rfl)
      change ((Json.str duration.text).duration?).bind (fun d =>
        (Members.zone? zones _).bind fun z => some (UnaryOp.timeBucket d z)) = _
      rw [duration_written (timed duration rfl),Option.bind_some,zoned,Option.bind_some]
  | timeFloor duration zone =>
      have zoned : (unaryMembers zones (.timeFloor duration zone) operand).zone? zones
          = some zone :=
        zone_given stored (by cases zone <;> rfl)
      change ((Json.str duration.text).duration?).bind (fun d =>
        (Members.zone? zones _).bind fun z => some (UnaryOp.timeFloor d z)) = _
      rw [duration_written (timed duration rfl),Option.bind_some,zoned,Option.bind_some]
  | timePart part zone =>
      have zoned : (unaryMembers zones (.timePart part zone) operand).zone? zones
          = some zone :=
        zone_given stored (by cases zone <;> rfl)
      have named : (Json.str part.name).keptPart? = some part := by cases part <;> rfl
      change ((Json.str part.name).keptPart?).bind (fun p =>
        (Members.zone? zones _).bind fun z => some (UnaryOp.timePart p z)) = _
      rw [named,Option.bind_some,zoned,Option.bind_some]
  | timeShift duration step zone =>
      have zoned : (unaryMembers zones (.timeShift duration step zone) operand).zone? zones
          = some zone :=
        zone_given stored (by cases zone <;> rfl)
      change ((Json.str duration.text).duration?).bind (fun d =>
        ((Json.int step.toInt).int32?).bind fun n =>
          (Members.zone? zones _).bind fun z => some (UnaryOp.timeShift d n.toInt32 z)) = _
      rw [duration_written (timed duration rfl),Option.bind_some,Json.int32_written,
        Option.bind_some,zoned,Option.bind_some]
      exact congrArg (fun n => some (UnaryOp.timeShift duration n zone)) (Int32.ofInt_toInt step)
  | numberBucket size offset =>
      have wide := Json.number_ofFloat (finite size List.mem_cons_self)
      have moved := Json.number_ofFloat (finite offset (List.mem_cons_of_mem _ List.mem_cons_self))
      change ((read zones (Json.ofFloat size)).json.number?).bind (fun s =>
        ((read zones (Json.ofFloat offset)).json.number?).bind fun o =>
          some (UnaryOp.numberBucket s o)) = _
      rw [read_json,wide,Option.bind_some,read_json,moved,Option.bind_some]
  | cast type => cases type <;> rfl
  | _ => rfl

theorem binaryOp_given (op : BinaryOp) (operand expression : Reading) :
    binaryOp? op.name (("operand",operand) :: ("expression",expression)
      :: Json.readMembers (reading zones) (Json.given op.members)) = some op := by
  cases op with
  | sort direction => cases direction <;> rfl
  | _ => rfl

-- A name that is none of the forms with members of their own is looked up among the operations.
theorem ofMembers_operation (operation : String) (members : Members)
    (other : operation ∉ ["literal","ref","ply","and","or","split"]) :
    ofMembers? zones operation members = (unaryOp? zones operation members).elim
      ((binaryOp? operation members).bind fun two =>
        (members.expr? "operand").bind fun operand =>
          (members.expr? "expression").bind fun expression => some (binary two operand expression))
      fun one => (members.expr? "operand").map (unary one) := by
  unfold ofMembers?
  split
  case h_7 =>
    cases unaryOp? zones operation members with
    | some one => rfl
    | none => cases binaryOp? operation members <;> rfl
  all_goals exact absurd (by decide) other

theorem ofMembers_unary {op : UnaryOp} {members : Members}
    (found : unaryOp? zones op.name members = some op) :
    ofMembers? zones op.name members = (members.expr? "operand").map (unary op) := by
  rw [ofMembers_operation op.name members (by cases op <;> simp [UnaryOp.name]),found]
  rfl

theorem ofMembers_binary {op : BinaryOp} {members : Members}
    (found : binaryOp? op.name members = some op) :
    ofMembers? zones op.name members = (members.expr? "operand").bind fun operand =>
      (members.expr? "expression").bind fun expression => some (binary op operand expression) := by
  have single : unaryOp? zones op.name members = none := by cases op <;> rfl
  rw [ofMembers_operation op.name members (by cases op <;> simp [BinaryOp.name]),found,single]
  rfl

theorem keys_given {keys : List (String × Expr)}
    (each : ∀ key ∈ keys, (read zones key.2.toJson).expr = some key.2)
    (ordered : Table.Ordered keys) : keysOfMembers? (Json.readMembers (reading zones)
      (keys.map fun key => (key.1,key.2.toJson))) = some keys := by
  have whole : (keys.map fun key => (key.1,read zones key.2.toJson)).mapM (fun member =>
      member.2.expr.map fun e => (member.1,e)) = some keys := by
    rw [List.mapM_map]
    refine (Json.mapM_some ?_).trans (congrArg some (List.map_id' keys))
    intro key listed
    change (read zones key.2.toJson).expr.map _ = _
    rw [each key listed,Option.map_some]
  rw [keysOfMembers?,Json.readMembers_map,List.map_map]
  refine (congrArg (Option.map Table.ofList) whole).trans ?_
  rw [Option.map_some,Table.ofList_self ordered]

theorem decodes {e : Expr} (readable : e.Readable) (stored : e.Stored zones) :
    e.Decodes zones := by
  induction e using structural with
  | literal v =>
      have read := Value.read_toJson .kept (readable _ (self_node _)) (stored _ (self_node _))
      change (Value.ofJsonFrom? .kept (Expr.read zones v.toJson).json).map _ = _
      rw [read_json,Value.ofJsonFrom?,read,Option.map_some]
  | ref name => rfl
  | ply => rfl
  | unary op e ih =>
      have part : e ∈ (unary op e).children := List.mem_singleton_self e
      have operand := (ih (readable.child part) (stored.child part)).read
      have found := unaryOp_given (readable _ (self_node _)) (stored _ (self_node _))
        (Expr.read zones e.toJson)
      refine (ofMembers_unary found).trans ?_
      change (Expr.read zones e.toJson).expr.map _ = _
      rw [operand,Option.map_some]
  | binary op e x first second =>
      have left : e ∈ (binary op e x).children := List.mem_cons_self
      have right : x ∈ (binary op e x).children := List.mem_cons_of_mem _ List.mem_cons_self
      have operand := (first (readable.child left) (stored.child left)).read
      have expression := (second (readable.child right) (stored.child right)).read
      have found := @binaryOp_given zones op (Expr.read zones e.toJson) (Expr.read zones x.toJson)
      refine (ofMembers_binary found).trans ?_
      change (Expr.read zones e.toJson).expr.bind (fun e =>
        (Expr.read zones x.toJson).expr.bind _) = _
      rw [operand,Option.bind_some,expression,Option.bind_some]
  | junction op es ih =>
      have each : ∀ e ∈ es, (Expr.read zones e.toJson).expr = some e := fun e part =>
        (ih e part (readable.child part) (stored.child part)).read
      have whole : (Json.readItems (reading zones) (es.map toJson)).mapM Reading.expr = some es := by
        rw [Json.readItems_map,List.map_map,List.mapM_map]
        exact (Json.mapM_some each).trans (congrArg some (List.map_id' es))
      cases op with
      | and =>
          change ((Json.readItems (reading zones) (es.map toJson)).mapM Reading.expr).map _ = _
          rw [whole,Option.map_some]
      | or =>
          change ((Json.readItems (reading zones) (es.map toJson)).mapM Reading.expr).map _ = _
          rw [whole,Option.map_some]
  | split e keys dataName ih each =>
      have first : e ∈ (split e keys dataName).children := List.mem_cons_self
      have operand := (ih (readable.child first) (stored.child first)).read
      have given : ∀ key ∈ keys, (Expr.read zones key.2.toJson).expr = some key.2 := by
        intro key listed
        have part : key.2 ∈ (split e keys dataName).children :=
          List.mem_cons_of_mem _ (List.mem_map_of_mem listed)
        exact (each key listed (readable.child part) (stored.child part)).read
      have found := keys_given given (stored _ (self_node _))
      change (Expr.read zones e.toJson).expr.bind (fun operand =>
        (keysOfMembers? (Json.readMembers (reading zones)
          (keys.map fun key => (key.1,key.2.toJson)))).bind
            fun keys => some (split operand keys dataName)) = _
      rw [operand,Option.bind_some,found,Option.bind_some]

end Written

-- Every expression that a piece of JSON can stand for is stored.
structure Reading.Stored (zones : Zone.Database) (r : Reading) : Prop where
  expr : ∀ e, r.expr = some e → e.Stored zones
  operands : ∀ es, r.operands = some es → ∀ e ∈ es, e.Stored zones
  keys : ∀ keys, r.keys = some keys → Table.Ordered keys ∧ ∀ key ∈ keys, key.2.Stored zones

section Read

variable {members : Members}

theorem zone_known {zone : Option Zone} (read : members.zone? zones = some zone) :
    ∀ z ∈ zone, zones.find? z.name = some z := by
  intro z is
  obtain ⟨_,decoded⟩ := Json.optional_reads read z is
  exact Json.zone_read decoded

theorem unaryOp_zone {name : String} {op : UnaryOp}
    (read : unaryOp? zones name members = some op) :
    op.zone? = none ∨ members.zone? zones = some op.zone? := by
  unfold unaryOp? at read
  split at read
  all_goals
    try simp only [Option.bind_eq_bind,Option.bind_eq_some_iff,Option.map_eq_some_iff] at read
    grind [UnaryOp.zone?]

theorem ofMembers_stored {name : String} {e : Expr}
    (each : ∀ member ∈ members, member.2.Stored zones)
    (read : ofMembers? zones name members = some e) : e.Stored zones := by
  have operand : ∀ name f, members.expr? name = some f → f.Stored zones := by
    intro name f found
    obtain ⟨r,listed,is⟩ := Option.bind_eq_some_iff.mp found
    exact (each _ (Table.lookup_mem listed)).expr f is
  have listed : ∀ es, (List.lookup "operands" members).bind (fun r => r.operands) = some es →
      ∀ f ∈ es, f.Stored zones := by
    intro es found
    obtain ⟨r,listed,is⟩ := Option.bind_eq_some_iff.mp found
    exact (each _ (Table.lookup_mem listed)).operands es is
  unfold ofMembers? at read
  split at read
  · obtain ⟨v,decoded,rfl⟩ := Option.map_eq_some_iff.mp read
    refine stored_parts ?_ nofun
    obtain ⟨j,-,is⟩ := Option.bind_eq_some_iff.mp decoded
    exact (Value.read_proper j).value v is
  · obtain ⟨_,-,rfl⟩ := Option.map_eq_some_iff.mp read
    exact stored_parts trivial nofun
  · cases read
    exact stored_parts trivial nofun
  · obtain ⟨es,are,rfl⟩ := Option.map_eq_some_iff.mp read
    exact stored_parts trivial (listed es are)
  · obtain ⟨es,are,rfl⟩ := Option.map_eq_some_iff.mp read
    exact stored_parts trivial (listed es are)
  · obtain ⟨first,is,read⟩ := Option.bind_eq_some_iff.mp read
    obtain ⟨keys,are,read⟩ := Option.bind_eq_some_iff.mp read
    obtain ⟨_,-,read⟩ := Option.bind_eq_some_iff.mp read
    cases read
    obtain ⟨r,inside,table⟩ := Option.bind_eq_some_iff.mp are
    obtain ⟨ordered,stored⟩ := (each _ (Table.lookup_mem inside)).keys keys table
    refine stored_parts ordered fun child part => ?_
    rcases List.mem_cons.mp part with rfl | later
    · exact operand _ _ is
    · obtain ⟨key,member,rfl⟩ := List.mem_map.mp later
      exact stored key member
  · split at read
    · rename_i op _ found
      obtain ⟨first,is,rfl⟩ := Option.map_eq_some_iff.mp read
      refine stored_parts ?_ fun child part => ?_
      · rcases unaryOp_zone found with none | zoned
        · exact fun z given => absurd (none.symm.trans given) nofun
        · exact zone_known zoned
      · cases List.mem_singleton.mp part
        exact operand _ _ is
    · obtain ⟨first,is,read⟩ := Option.bind_eq_some_iff.mp read
      obtain ⟨second,also,read⟩ := Option.bind_eq_some_iff.mp read
      cases read
      refine stored_parts trivial (List.forall_mem_cons.mpr ⟨operand _ _ is,fun child part => ?_⟩)
      cases List.mem_singleton.mp part
      exact operand _ _ also
    · cases read

theorem ofParts_stored {origin : Json.Origin} {parts : Json.Parts Reading} {e : Expr}
    (each : parts.Each (Reading.Stored zones)) (read : ofParts? zones origin parts = some e) :
    e.Stored zones := by
  obtain ⟨⟨_,rest⟩,tagged,read⟩ := Option.bind_eq_some_iff.mp read
  obtain ⟨_,-,read⟩ := Option.bind_eq_some_iff.mp read
  obtain ⟨fields,given,read⟩ := Option.bind_eq_some_iff.mp read
  exact ofMembers_stored ((each.tagged tagged).2.fields given) read

theorem keysOfMembers_stored {keys : List (String × Expr)}
    (each : ∀ member ∈ members, member.2.Stored zones)
    (read : keysOfMembers? members = some keys) :
    Table.Ordered keys ∧ ∀ key ∈ keys, key.2.Stored zones := by
  obtain ⟨entries,are,is⟩ := Option.map_eq_some_iff.mp read
  subst is
  refine ⟨Table.ofList_ordered entries,fun key listed => ?_⟩
  obtain ⟨member,inside,reads⟩ := Json.mem_mapM are key (Table.mem_ofList listed)
  obtain ⟨e,decoded,is⟩ := Option.map_eq_some_iff.mp reads
  subst is
  exact (each member inside).expr e decoded

theorem reading_stored (j : Json) (parts : Option (Json.Parts Reading))
    (each : ∀ given, parts = some given → given.Each (Reading.Stored zones)) :
    (reading zones j parts).Stored zones where
  expr e is := by
    obtain ⟨given,are,read⟩ := Option.bind_eq_some_iff.mp is
    exact ofParts_stored (each given are) read
  operands es are e listed := by
    obtain ⟨given,found,read⟩ := Option.bind_eq_some_iff.mp are
    cases given with
    | items readings =>
        obtain ⟨r,member,is⟩ := Json.mem_mapM read e listed
        exact (each _ found r member).expr e is
    | members members => cases read
  keys keys are := by
    obtain ⟨given,found,read⟩ := Option.bind_eq_some_iff.mp are
    cases given with
    | items readings => cases read
    | members members => exact keysOfMembers_stored (each _ found) read

theorem read_stored (j : Json) : (read zones j).Stored zones :=
  Json.readBy_each reading_stored j

theorem ofJson_stored {j : Json} {e : Expr} (read : ofJson? zones j = some e) : e.Stored zones := by
  unfold ofJson? at read
  split at read
  · refine ofParts_stored ?_ read
    rw [Json.readMembers_map]
    exact List.forall_mem_map.mpr fun field _ => read_stored field.2
  · refine ofParts_stored ?_ read
    rw [Json.readItems_map]
    exact List.forall_mem_map.mpr fun item _ => read_stored item
  · cases read

end Read

theorem encode_readable {e : Expr} (readable : e.Readable) : e.encode = .ok e.toJson := by
  have shown : ∀ d ∈ e.durations, d.display = .ok d.text := by
    intro d listed
    obtain ⟨n,inside,is⟩ := List.mem_filterMap.mp listed
    have here := readable n inside
    cases n with
    | unary op operand =>
        obtain ⟨text,shown,-⟩ := here.2 d is
        rw [shown,(Duration.display_ok.mp shown).2]
    | _ => cases is
  rw [encode,mapM_total shown]
  rfl

-- The form of an expression is written and read back as the expression, and names all of its
-- fields at every place. So it is, whichever zones are known, for the expressions that are made of
-- known zones and of times of the calendar, and for whatever was read from any other JSON.
theorem form_read_back (zones : Zone.Database) {e : Expr} (readable : e.Readable)
    (source : e.Stored zones ∨ ∃ j, ofJson? zones j = some e) :
    e.encode = .ok e.toJson ∧ ofJson? zones e.toJson = some e ∧ ∀ n ∈ e.nodes, n.WritesFields := by
  have stored : e.Stored zones := by
    rcases source with stored | ⟨j,read⟩
    · exact stored
    · exact ofJson_stored read
  exact ⟨encode_readable readable,(decodes readable stored).ofJson,fun n _ => n.writes_fields⟩

def quarters : Json :=
  .obj [("note",.str "by quarter of the day"),("op",.str "numberBucket"),
    ("operand",.obj [("op",.str "timePart"),
      ("operand",.obj [("duration",.str "PT1H"),("op",.str "timeFloor"),
        ("timezone",.str "Asia/Tokyo"),("operand",.obj [("name",.str "time"),("op",.str "ref")])]),
      ("part",.str "HOUR_OF_DAY"),("timezone",.null)]),
    ("size",.float 6.0)]

theorem quarters_read_back : ∃ e, ofJson? Zone.table quarters = some e ∧ e.Readable ∧
    e.encode = .ok e.toJson ∧ ofJson? Zone.table e.toJson = some e ∧
      ∀ n ∈ e.nodes, n.WritesFields := by
  have read : ofJson? Zone.table quarters = some (.numberBucket (.timePart
      (.timeFloor (.ref "time") { hours := 1 } (some Zone.tokyo)) .hourOfDay none) 6.0 0.0) := rfl
  have readable : Readable (.numberBucket (.timePart
      (.timeFloor (.ref "time") { hours := 1 } (some Zone.tokyo)) .hourOfDay none) 6.0 0.0) := by
    intro n inside
    simp only [nodes,List.mem_cons,List.not_mem_nil,or_false] at inside
    rcases inside with rfl | rfl | rfl | rfl
    · refine ⟨by decide +kernel,fun d is => ?_⟩
      cases is
    · refine ⟨fun x listed => ?_,fun d is => ?_⟩
      · cases listed
      · cases is
    · refine ⟨fun x listed => ?_,fun d is => ?_⟩
      · cases listed
      · cases is
        exact ⟨"PT1H",rfl,by decide⟩
    · trivial
  exact ⟨_,read,readable,form_read_back Zone.table readable (.inr ⟨_,read⟩)⟩

end Expr

end OlapQuery
