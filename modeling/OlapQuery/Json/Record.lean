import OlapQuery.Json.Basic

-- Records in JSON. A record is an object of named members, or a list of its fields in order. A
-- record of one of several kinds names its kind in a member, or first in the list. Members beyond
-- the fields are ignored, but no field may be given twice.

namespace OlapQuery.Json

-- Where a piece of JSON comes from; it decides which of several spellings are taken.
inductive Origin where
  -- It was asked for as it stands.
  | document
  -- It is part of something that was kept until its kind was known.
  | kept
  -- It is a value of a settings file.
  | settings
  deriving DecidableEq, Repr

structure Field where
  name : String
  -- It may be missing from the end of a list.
  mayEnd : Bool := false
  deriving DecidableEq, Repr

abbrev Shape := List Field

def required (names : List String) : Shape :=
  names.map fun name => { name }

def defaulted (names : List String) : Shape :=
  names.map fun name => { name,mayEnd := true }

-- The parts of an object or a list, each of them read already or not.
inductive Parts (α : Type) where
  | members (members : List (String × α))
  | items (items : List α)

def parts? : Json → Option (Parts Json)
  | .obj fields => some (.members fields)
  | .arr items => some (.items items)
  | _ => none

namespace Parts

variable {α : Type}

def count (given : List (String × α)) (name : String) : Nat :=
  (given.filter (fun member => member.1 == name)).length

-- The fields of a record by name. A list may be too long only in a settings file.
def fields? (origin : Origin) (shape : Shape) : Parts α → Option (List (String × α))
  | .members given =>
      if shape.all (fun field => count given field.name ≤ 1) then some given else none
  | .items given =>
      if given.length > shape.length && origin != .settings then none
      else if (shape.drop given.length).all (fun field => field.mayEnd) then
        some ((shape.map (fun field => field.name)).zip given)
      else none

def tagged? (tag : String) : Parts α → Option (α × Parts α)
  | .members given =>
      if count given tag == 1 then
        (List.lookup tag given).map fun kind =>
          (kind,.members (given.filter (fun member => member.1 != tag)))
      else none
  | .items (kind :: rest) => some (kind,.items rest)
  | .items [] => none

end Parts

-- Reads a piece of JSON from the readings of its parts. What it is made into may be several things
-- at once, so that no piece is read twice.
mutual
def readBy (make : Json → Option (Parts α) → α) : Json → α
  | .arr items => make (.arr items) (some (.items (readItems make items)))
  | .obj fields => make (.obj fields) (some (.members (readMembers make fields)))
  | j => make j none

def readItems (make : Json → Option (Parts α) → α) : List Json → List α
  | [] => []
  | j :: rest => readBy make j :: readItems make rest

def readMembers (make : Json → Option (Parts α) → α) : List (String × Json) → List (String × α)
  | [] => []
  | (name,j) :: rest => (name,readBy make j) :: readMembers make rest
end

-- A kind is given by name; in what was kept, its place in the list of kinds will do.
def kind? (origin : Origin) (kinds : List String) : Json → Option String
  | .str name => if kinds.contains name then some name else none
  | .int n => if origin == .kept && 0 ≤ n then kinds[n.toNat]? else none
  | _ => none

def isNothing (origin : Origin) : Json → Bool
  | .null => origin != .settings
  | .obj [] => origin != .document
  | .arr [] => origin == .settings
  | _ => false

-- One of several names: a text, or an object that has it as its only member and holds nothing.
def choice? (origin : Origin) : Json → Option String
  | .str name => some name
  | .obj [(name,content)] => if isNothing origin content then some name else none
  | _ => none

def optional (decode : Json → Option α) : Option Json → Option (Option α)
  | none => some none
  | some .null => some none
  | some j => (decode j).map some

def withDefault (default : α) (decode : Json → Option α) : Option Json → Option α
  | none => some default
  | some j => decode j

end OlapQuery.Json
