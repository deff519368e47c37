import OlapQuery.Catalog
import OlapQuery.Plan
import OlapQuery.Settings

-- The commands of the program and what they print, apart from reading files.

namespace OlapQuery

structure Target where
  config : Option String
  dataset : Option String
  expression : String
  deriving DecidableEq, Repr

inductive Command where
  | compile (target : Target)
  | plan (target : Target)
  | mapTypes (engine columns : String)
  deriving DecidableEq, Repr

namespace Command

def option? (long short : String) : List String → Option String
  | name :: value :: rest =>
      if name == long || name == short then some value else option? long short (value :: rest)
  | _ => none

def target? (arguments : List String) : Option Target := do
  let expression ← option? "--expression" "-e" arguments
  some {
    config := option? "--config" "-c" arguments
    dataset := option? "--dataset" "-d" arguments
    expression }

def parse? : List String → Option Command
  | "compile" :: arguments => (target? arguments).map .compile
  | "plan" :: arguments => (target? arguments).map .plan
  | "map-types" :: arguments => do
      let engine ← option? "--engine" "-e" arguments
      let columns ← option? "--columns" "-c" arguments
      some (.mapTypes engine columns)
  | _ => none

def usage : String :=
  "Usage:\n"
    ++ "  compile --expression <file> [--config <file>] [--dataset <name>]\n"
    ++ "  plan --expression <file> [--config <file>] [--dataset <name>]\n"
    ++ "  map-types --engine <engine> --columns <file>"

end Command

-- The same value with the members of every object in name order.
mutual
def Json.inNameOrder : Json → Json
  | .arr items => .arr (itemsInNameOrder items)
  | .obj fields => .obj (Table.ofList (fieldsInNameOrder fields))
  | other => other

def itemsInNameOrder : List Json → List Json
  | [] => []
  | j :: rest => j.inNameOrder :: itemsInNameOrder rest

def fieldsInNameOrder : List (String × Json) → List (String × Json)
  | [] => []
  | (name,j) :: rest => (name,j.inNameOrder) :: fieldsInNameOrder rest
end

def Level.describe (level : Level) : Checked Json := do
  let nested ← level.nested.mapM fun n => do
    return .obj [("name",.str n.name),("template",← n.expression.encode)]
  return Json.inNameOrder (.obj [
    ("query",Json.ofOption NativeQuery.toJson level.query),
    ("nested",.arr nested)])

namespace CommandLine

def chooseDataset (settings : Settings) (name : Option String) :
    Except SettingsError DatasetSettings :=
  match name,settings.default? with
  | some name,_ => settings.dataset name
  | none,some (_,dataset) => .ok dataset
  | none,none => .error (.datasetNotFound "no --dataset given and no default")

def parseExpression (zones : Time.Zone.Database) (path text : String) : Except String Expr :=
  match (Json.parseAsWritten? text).bind (Expr.ofJson? zones) with
  | some e => .ok e
  | none => .error ("parsing '" ++ path ++ "': no expression")

def parseColumns (path text : String) : Except String (List CatalogColumn) :=
  match ((Json.parseAsWritten? text).bind Json.arr?).bind (·.mapM CatalogColumn.ofJson?) with
  | some columns => .ok columns
  | none => .error ("parsing '" ++ path ++ "': no list of columns")

def compileText (dataset : Dataset) (e : Expr) : Compiled String := do
  let queries ← compile dataset e
  return String.intercalate "\n\n" (queries.map NativeQuery.display)

def planText (dataset : Dataset) (e : Expr) : Compiled String := do
  let level ← planLevel dataset e
  return (← level.describe.raise).pretty

def mapTypesText (engine : String) (columns : List CatalogColumn) : Except String String := do
  let engine ← (Engine.parse engine).mapError (fun name => "unknown engine: " ++ name)
  return (Json.arr ((Catalog.attributes engine columns).map Attribute.toJson)).pretty

end CommandLine

end OlapQuery
