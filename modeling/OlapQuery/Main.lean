import OlapQuery.CommandLine
import OlapQuery.Time.ZoneTable

-- The program: reads the files that a command names, and prints what it comes to.

namespace OlapQuery.Main

def orFail (result : Except String α) : IO α :=
  match result with
  | .ok a => return a
  | .error text => throw (IO.userError text)

-- What is wrong with a regular expression is not told apart.
def explain (_ : String) : String :=
  "it cannot be read, or is too large"

def orBreakOff (result : Compiled α) : IO α :=
  match result with
  | .ok a => return a
  | .error (.refused error) => throw (IO.userError (error.message explain))
  | .error .panicked => throw (IO.userError "the program broke off")

def readInput (path : String) : IO String := do
  try IO.FS.readFile path
  catch e => throw (IO.userError ("reading '" ++ path ++ "': " ++ toString e))

def readSettings (path : Option String) : IO Settings := do
  match path with
  | none => return { datasets := [] }
  | some path =>
      let text ← try IO.FS.readFile path
        catch e => orFail (.error (match e with
          | .noFileOrDirectory _ _ _ => SettingsError.message explain (.fileNotFound path)
          | other => SettingsError.message explain (.unreadable (toString other))))
      orFail ((Settings.parse text).mapError (SettingsError.message explain))

def environmentOf (dataset : DatasetSettings) : IO Environment := do
  let mut env : Environment := []
  for name in dataset.variableNames do
    match ← IO.getEnv name with
    | some value => env := Table.insert name value env
    | none => pure ()
  return env

def load (target : Target) : IO (Dataset × Expr) := do
  let settings ← readSettings target.config
  let chosen ← orFail
    ((CommandLine.chooseDataset settings target.dataset).mapError (SettingsError.message explain))
  let env ← environmentOf chosen
  let dataset ← orFail
    ((chosen.toDataset Time.Zone.table env).mapError (SettingsError.message explain))
  let text ← readInput target.expression
  let e ← orFail (CommandLine.parseExpression Time.Zone.table target.expression text)
  return (dataset,e)

def run : Command → IO Unit
  | .compile target => do
      let (dataset,e) ← load target
      IO.println (← orBreakOff (CommandLine.compileText dataset e))
  | .plan target => do
      let (dataset,e) ← load target
      IO.println (← orBreakOff (CommandLine.planText dataset e))
  | .mapTypes engine columns => do
      let columns ← orFail (CommandLine.parseColumns columns (← readInput columns))
      IO.println (← orFail (CommandLine.mapTypesText engine columns))

end OlapQuery.Main

def main (arguments : List String) : IO UInt32 := do
  match OlapQuery.Command.parse? arguments with
  | none =>
      IO.eprintln OlapQuery.Command.usage
      return 2
  | some command =>
      try
        OlapQuery.Main.run command
        return 0
      catch e =>
        IO.eprintln ("Error: " ++ toString e)
        return 1
