import OlapQuery.Dataset
import OlapQuery.Expr.Codec
import OlapQuery.Json.Parser
import OlapQuery.Text.Letters
import OlapQuery.Toml.Parser

-- Datasets described in a TOML file. The source, the filter and the context of a dataset may
-- refer to variables of the environment, as `$NAME` or with the name in braces.

namespace OlapQuery

abbrev Environment := Table String

inductive SettingsError where
  | fileNotFound (path : String)
  | unreadable (reason : String)
  | malformed
  | missingVariable (name : String)
  | unterminatedVariable (text : String)
  | datasetNotFound (name : String)
  | unsupportedEngine (name : String)
  | invalidFilter
  | invalidDataset (error : CompileError)
  deriving DecidableEq, Repr

def SettingsError.message (explain : String → String) : SettingsError → String
  | .fileNotFound path => "Config file not found: " ++ path
  | .unreadable reason => "Failed to read config file: " ++ reason
  | .malformed => "Failed to parse config file"
  | .missingVariable name => "Missing environment variable: " ++ name
  | .unterminatedVariable text => "Unterminated variable reference in: " ++ text
  | .datasetNotFound name => "Dataset not found: " ++ name
  | .unsupportedEngine name => "Unsupported engine: " ++ name
  | .invalidFilter => "Invalid filter expression"
  | .invalidDataset error => "Invalid dataset: " ++ error.message explain

namespace Environment

def value (env : Environment) (name : List Char) : Except SettingsError (List Char) :=
  let name := String.ofList name.reverse
  match Table.get? env name with
  | some value => .ok value.toList
  | none => .error (.missingVariable name)

def isNameChar (c : Char) : Bool :=
  Text.isAlphanumeric c || c == '_'

-- Where in a text the reading of variables stands. Names are in reverse.
inductive Place where
  | plain
  | dollar
  | braces (name : List Char)
  | name (name : List Char)

def outside (c : Char) : Place :=
  if c == '$' then .dollar else .plain

def outsideText (c : Char) : List Char :=
  if c == '$' then [] else [c]

def expandFrom (env : Environment) (whole : String) :
    Place → List Char → Except SettingsError (List Char)
  | .plain,[] => .ok []
  | .plain,c :: rest => do
      return outsideText c ++ (← expandFrom env whole (outside c) rest)
  | .dollar,[] => .ok ['$']
  | .dollar,c :: rest =>
      if c.toNat == 0x7B then expandFrom env whole (.braces []) rest
      else if isNameChar c then expandFrom env whole (.name [c]) rest
      else do return '$' :: outsideText c ++ (← expandFrom env whole (outside c) rest)
  | .braces _,[] => .error (.unterminatedVariable whole)
  | .braces name,c :: rest =>
      if c.toNat == 0x7D then do
        let value ← env.value name
        return value ++ (← expandFrom env whole .plain rest)
      else expandFrom env whole (.braces (c :: name)) rest
  | .name name,[] => env.value name
  | .name name,c :: rest =>
      if isNameChar c then expandFrom env whole (.name (c :: name)) rest
      else do
        let value ← env.value name
        return value ++ outsideText c ++ (← expandFrom env whole (outside c) rest)

-- Puts the values of variables in their place; a dollar without a name stays.
def expand (env : Environment) (text : String) : Except SettingsError String :=
  (expandFrom env text .plain text.toList).map String.ofList

def variablesFrom : Place → List Char → List String
  | .name name,[] => [String.ofList name.reverse]
  | _,[] => []
  | .plain,c :: rest => variablesFrom (outside c) rest
  | .dollar,c :: rest =>
      if c.toNat == 0x7B then variablesFrom (.braces []) rest
      else if isNameChar c then variablesFrom (.name [c]) rest
      else variablesFrom (outside c) rest
  | .braces name,c :: rest =>
      if c.toNat == 0x7D then String.ofList name.reverse :: variablesFrom .plain rest
      else variablesFrom (.braces (c :: name)) rest
  | .name name,c :: rest =>
      if isNameChar c then variablesFrom (.name (c :: name)) rest
      else String.ofList name.reverse :: variablesFrom (outside c) rest

def variableNames (text : String) : List String :=
  variablesFrom .plain text.toList

-- Expands every text inside a value, but not the names of members.
mutual
def expandJson (env : Environment) : Json → Except SettingsError Json
  | .str text => do return .str (← env.expand text)
  | .arr items => do return .arr (← expandItems env items)
  | .obj fields => do return .obj (← expandFields env fields)
  | other => .ok other

def expandItems (env : Environment) : List Json → Except SettingsError (List Json)
  | [] => .ok []
  | j :: rest => do
      let first ← expandJson env j
      let others ← expandItems env rest
      return first :: others

def expandFields (env : Environment) :
    List (String × Json) → Except SettingsError (List (String × Json))
  | [] => .ok []
  | (name,j) :: rest => do
      let first ← expandJson env j
      let others ← expandFields env rest
      return (name,first) :: others
end

mutual
def jsonVariables : Json → List String
  | .str text => variableNames text
  | .arr items => itemVariables items
  | .obj fields => fieldVariables fields
  | _ => []

def itemVariables : List Json → List String
  | [] => []
  | j :: rest => jsonVariables j ++ itemVariables rest

def fieldVariables : List (String × Json) → List String
  | [] => []
  | (_,j) :: rest => jsonVariables j ++ fieldVariables rest
end

end Environment

structure DatasetSettings where
  engine : String
  source : String
  timeAttribute : Option String
  attributes : List Attribute
  -- The base filter as the JSON text of an expression.
  filter : Option String
  context : Table Json
  allowSelectQueries : Bool
  allowClientSideSplits : Bool
  customAggregations : Table Json
  lookups : Table (Table String)

namespace DatasetSettings

def strings? (j : Json) : Option (Table String) := do
  (← j.obj?).mapM fun (name,value) => do some (name,← value.str?)

def lookups? (j : Json) : Option (Table (Table String)) := do
  (← j.obj?).mapM fun (name,value) => do some (name,← strings? value)

def values? (j : Json) : Option (Table Json) := do
  Json.keptFields? (← j.obj?)

def attributes? (j : Json) : Option (List Attribute) := do
  (← j.arr?).mapM (Attribute.ofJsonFrom? .settings)

def shape : Json.Shape :=
  Json.required ["engine","source"] ++ Json.defaulted [
    "time_attribute","attributes","filter","context","allow_select_queries",
    "allow_client_side_splits","custom_aggregations","lookups"]

def ofJson? (j : Json) : Option DatasetSettings := do
  let fields ← (← j.parts?).fields? .settings shape
  let text (value : Json) : Option (Option String) := value.str?.map some
  some {
    engine := ← (List.lookup "engine" fields).bind Json.str?
    source := ← (List.lookup "source" fields).bind Json.str?
    timeAttribute := ← Json.withDefault none text (List.lookup "time_attribute" fields)
    attributes := ← Json.withDefault [] attributes? (List.lookup "attributes" fields)
    filter := ← Json.withDefault none text (List.lookup "filter" fields)
    context := ← Json.withDefault [] values? (List.lookup "context" fields)
    allowSelectQueries := ←
      Json.withDefault false Json.bool? (List.lookup "allow_select_queries" fields)
    allowClientSideSplits := ←
      Json.withDefault false Json.bool? (List.lookup "allow_client_side_splits" fields)
    customAggregations := ← Json.withDefault [] values? (List.lookup "custom_aggregations" fields)
    lookups := ← Json.withDefault [] lookups? (List.lookup "lookups" fields) }

def variableNames (s : DatasetSettings) : List String :=
  Environment.variableNames s.source ++ (s.filter.map Environment.variableNames).getD []
    ++ Environment.fieldVariables s.context

def engine? (s : DatasetSettings) : Except SettingsError Engine :=
  (Engine.parse s.engine).mapError (fun _ => .unsupportedEngine s.engine)

-- A dataset without a filter keeps all rows.
def baseFilter (zones : Time.Zone.Database) (env : Environment) (s : DatasetSettings) :
    Except SettingsError Expr :=
  match s.filter with
  | none => .ok (.bool true)
  | some text => do
      match (Json.parseAsWritten? (← env.expand text)).bind (Expr.ofJson? zones) with
      | some filter => return filter
      | none => throw .invalidFilter

def toDataset (zones : Time.Zone.Database) (env : Environment) (s : DatasetSettings) :
    Except SettingsError Dataset := do
  let source ← env.expand s.source
  let engine ← s.engine?
  let filter ← s.baseFilter zones env
  let context ← env.expandFields s.context
  let dataset : Dataset := {
    engine
    source
    timeAttribute := s.timeAttribute
    attributes := s.attributes
    filter
    context
    allowSelectQueries := s.allowSelectQueries
    allowClientSideSplits := s.allowClientSideSplits
    customAggregations := s.customAggregations
    lookups := s.lookups }
  dataset.validate.mapError .invalidDataset

end DatasetSettings

structure Settings where
  datasets : Table DatasetSettings

namespace Settings

def ofJson? (j : Json) : Option Settings := do
  let decode (value : Json) : Option (Table DatasetSettings) := do
    (← value.obj?).mapM fun (name,dataset) => do
      some (name,← DatasetSettings.ofJson? dataset)
  some { datasets := ← Json.withDefault [] decode (j.get? "datasets") }

def parse (text : String) : Except SettingsError Settings :=
  match (Toml.parse? text).bind ofJson? with
  | some settings => .ok settings
  | none => .error .malformed

def dataset (s : Settings) (name : String) : Except SettingsError DatasetSettings :=
  match s.datasets.get? name with
  | some dataset => .ok dataset
  | none => .error (.datasetNotFound name)

-- The dataset to use when none is named: the one called `default`, else the only one.
def default? (s : Settings) : Option (String × DatasetSettings) :=
  match s.datasets.get? "default",s.datasets with
  | some dataset,_ => some ("default",dataset)
  | none,[only] => some only
  | none,_ => none

end Settings

end OlapQuery
