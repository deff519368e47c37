import OlapQuery.Value.Codec

-- The columns of a dataset.

namespace OlapQuery

inductive Encoding where
  -- Numbers already bucketed and written `low<separator>high`.
  | range (separator : String) (size : Float) (digitsAfterDecimal : Option Nat)
  -- A sketch of distinct values; only counting distinct values makes sense of it.
  | unique

structure Attribute where
  name : String
  type : DataType
  nativeType : Option String := none
  unsplitable : Bool := false
  special : Option Encoding := none

namespace Encoding

def toJson : Encoding → Json
  | .range separator size digits => .ofMembers
      [("kind",some (.str "range")),("separator",some (.str separator)),
        ("rangeSize",some (Json.ofFloat size)),
        ("digitsAfterDecimal",digits.map (fun n => .int n))]
  | .unique => .obj [("kind",.str "unique")]

def kinds : List String := ["range","unique"]

def shape (kind : String) : Json.Shape :=
  if kind == "range" then
    Json.required ["separator","rangeSize"] ++ Json.defaulted ["digitsAfterDecimal"]
  else []

-- What follows the kind was kept until the kind was known, so its whole numbers must fit.
def ofJson? (origin : Json.Origin) (j : Json) : Option Encoding := do
  let _ ← j.kept?
  let (tag,body) ← (← j.parts?).tagged? "kind"
  let kind ← tag.kind? origin kinds
  let fields ← body.fields? .kept (shape kind)
  if kind == "range" then
    let separator ← (List.lookup "separator" fields).bind Json.str?
    let size ← (List.lookup "rangeSize" fields).bind Json.number?
    let digits ← Json.optional Json.nat32? (List.lookup "digitsAfterDecimal" fields)
    some (.range separator size digits)
  else some .unique

end Encoding

namespace Attribute

def isUnique (a : Attribute) : Bool :=
  match a.special with
  | some .unique => true
  | _ => false

def toJson (a : Attribute) : Json :=
  .ofMembers
    [("name",some (.str a.name)),("type",some (.str a.type.name)),
      ("nativeType",a.nativeType.map .str),("unsplitable",some (.bool a.unsplitable)),
      ("special",a.special.map Encoding.toJson)]

def shape : Json.Shape :=
  Json.required ["name","type"] ++ Json.defaulted ["nativeType","unsplitable","special"]

-- `unsplitable` may be missing but not null.
def ofJsonFrom? (origin : Json.Origin) (j : Json) : Option Attribute := do
  let fields ← (← j.parts?).fields? origin shape
  let name ← (List.lookup "name" fields).bind Json.str?
  let type ← (List.lookup "type" fields).bind (Json.typeFrom? origin)
  let nativeType ← Json.optional Json.str? (List.lookup "nativeType" fields)
  let unsplitable ← Json.withDefault false Json.bool? (List.lookup "unsplitable" fields)
  let special ← Json.optional (Encoding.ofJson? origin) (List.lookup "special" fields)
  some { name,type,nativeType,unsplitable,special }

def ofJson? (j : Json) : Option Attribute :=
  ofJsonFrom? .document j

end Attribute

end OlapQuery
