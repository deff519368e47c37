import OlapQuery.Expr.Typing
import OlapQuery.Sql.Dialect

-- Why an expression cannot be compiled against a dataset. The compiler stops at the first
-- reason it meets.

namespace OlapQuery

open Time (Part)

inductive CompileError where
  | unsupportedCast (source target : DataType)
  | unsupportedDuration (text : String)
  | unsupportedTimePart (part : Part)
  | unsupportedHaving (what : String)
  | unsupportedAggregate (what : String)
  | unsupportedExpression (what : String)
  | type (error : TypeError)
  | unknownAttribute (name : String)
  | duplicateAttribute (name : String)
  | invalidRegex (pattern : String)
  | invalidConfig (what : String)
  deriving DecidableEq, Repr

abbrev Compiled (α : Type) := Except (Stop CompileError) α

namespace CompileError

-- What is wrong with a pattern is for the library of regular expressions to explain.
def message (explain : String → String) : CompileError → String
  | .unsupportedCast source target =>
      "Unsupported cast from " ++ source.name ++ " to " ++ target.name
  | .unsupportedDuration text => "Unsupported duration '" ++ text ++ "'"
  | .unsupportedTimePart part => "Unsupported time part " ++ part.name
  | .unsupportedHaving what => "Unsupported having: " ++ what
  | .unsupportedAggregate what => "Unsupported aggregate: " ++ what
  | .unsupportedExpression what => "Unsupported expression: " ++ what
  | .type error => error.message
  | .unknownAttribute name => "Unknown attribute: " ++ name
  | .duplicateAttribute name => "Duplicate attribute: " ++ name
  | .invalidRegex pattern => "Invalid regular expression '" ++ pattern ++ "': " ++ explain pattern
  | .invalidConfig what => "Invalid configuration: " ++ what

def ofDialect : Sql.DialectError → CompileError
  | .unsupportedCast source target => .unsupportedCast source target
  | .unsupportedDuration text => .unsupportedDuration text
  | .unsupportedPart part => .unsupportedTimePart part

end CompileError

namespace Compiled

def unsupported (what : String) : Compiled α :=
  .error (.refused (.unsupportedExpression what))

def ofDialect (result : Except (Stop Sql.DialectError) α) : Compiled α :=
  result.mapError (Stop.map CompileError.ofDialect)

def ofTyping (result : Except TypeError α) : Compiled α :=
  result.mapError fun error => .refused (.type error)

end Compiled

end OlapQuery
