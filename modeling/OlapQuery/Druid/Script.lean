import OlapQuery.CompileError
import OlapQuery.Json.Printer
import OlapQuery.Regex.Parser

-- JavaScript for what Druid's own functions cannot express. Columns are read through variables,
-- which the caller names.

namespace OlapQuery.Druid

namespace Script

def literal : Value → Compiled String
  | .null => .ok "null"
  | .boolean b => .ok (if b then "true" else "false")
  | .number n => .ok (Decimal.numberText n)
  | .string s => .ok (Json.stringText s)
  | other => Compiled.unsupported (other.type.name ++ " literal in a javascript expression")

-- Rounds down to a multiple of the size, counted from the offset.
def numberFloor (x : String) (size offset : Float) : String :=
  let s := Decimal.numberText size
  if offset == 0.0 then "Math.floor(" ++ x ++ " / " ++ s ++ ") * " ++ s
  else
    let o := Decimal.numberText offset
    "Math.floor((" ++ x ++ " - " ++ o ++ ") / " ++ s ++ ") * " ++ s ++ " + " ++ o

def unsupportedOp (op : String) : Compiled α :=
  Compiled.unsupported (op ++ " in a javascript expression")

def unary (op : UnaryOp) (operand : Compiled String) : Compiled String :=
  match op with
  | .absolute => do return "Math.abs(" ++ (← operand) ++ ")"
  | .not => do return "(!" ++ (← operand) ++ ")"
  | .regexMatch pattern => do
      return "RegExp(" ++ Json.stringText pattern ++ ").test(" ++ (← operand) ++ ")"
  | .substr position len => do
      return "(''+" ++ (← operand) ++ ").substr(" ++ toString position.toInt ++ "," ++ toString len.toInt ++ ")"
  | .extract pattern => do
      return "((''+" ++ (← operand) ++ ").match(RegExp(" ++ Json.stringText pattern ++ "))||[])[1]||null"
  | .numberBucket size offset => do return numberFloor (← operand) size offset
  | .cast .number => do return "Number(" ++ (← operand) ++ ")"
  | .cast .string => do return "String(" ++ (← operand) ++ ")"
  | op => unsupportedOp op.name

def infixText : BinaryOp → Option String
  | .add => some "+"
  | .concat => some "+"
  | .subtract => some "-"
  | .multiply => some "*"
  | .divide => some "/"
  | .is => some "==="
  | .greaterThan => some ">"
  | .greaterThanOrEqual => some ">="
  | .lessThan => some "<"
  | .lessThanOrEqual => some "<="
  | _ => none

def binary (op : BinaryOp) (operand expression : Compiled String) : Compiled String :=
  let both (f : String → String → String) : Compiled String := do
    return f (← operand) (← expression)
  match op with
  | .power => both (fun a b => "Math.pow(" ++ a ++ "," ++ b ++ ")")
  | .contains false => both (fun a b => "(''+" ++ a ++ ").indexOf(" ++ b ++ ")>-1")
  | .contains true => both (fun a b =>
      "(''+" ++ a ++ ").toLowerCase().indexOf((''+" ++ b ++ ").toLowerCase())>-1")
  | .indexOf => both (fun a b => "(''+" ++ a ++ ").indexOf(" ++ b ++ ")")
  | .fallback => both (fun a b => "(" ++ a ++ "!=null?" ++ a ++ ":" ++ b ++ ")")
  | op =>
      match infixText op with
      | some text => both (fun a b => "(" ++ a ++ text ++ b ++ ")")
      | none => unsupportedOp op.name

mutual
def ofExpr (variableOf : String → Compiled String) : Expr → Compiled String
  | .literal v => literal v
  | .ref name => variableOf name
  | .ply => unsupportedOp "ply"
  | .unary op e => unary op (ofExpr variableOf e)
  | .binary op e x => binary op (ofExpr variableOf e) (ofExpr variableOf x)
  | .junction op es => do
      let parts ← ofExprs variableOf es
      let mark := match op with
        | .and => "&&"
        | .or => "||"
      return "(" ++ String.intercalate mark parts ++ ")"
  | .split _ _ _ => unsupportedOp "split"

def ofExprs (variableOf : String → Compiled String) : List Expr → Compiled (List String)
  | [] => .ok []
  | e :: rest => do
      let first ← ofExpr variableOf e
      let others ← ofExprs variableOf rest
      return first :: others
end

def dimensionFunction (e : Expr) (dimension : String) : Compiled String := do
  let body ← ofExpr (fun name =>
    if name == dimension then .ok "d"
    else Compiled.unsupported
      ("javascript over more than one attribute (" ++ dimension ++ " and " ++ name ++ ")")) e
  return "function(d)\x7breturn " ++ body ++ ";\x7d"

-- Buckets of a dimension that may hold what is no number.
def numberBucketFunction (size offset : Float) : String :=
  "function(d)\x7bd=Number(d); if(isNaN(d)) return 'null'; return " ++ numberFloor "d" size offset
    ++ ";\x7d"

def escapedPattern (text : String) : String :=
  String.ofList (text.toList.flatMap fun c =>
    if Regex.isMeta c || c == '/' then ['\\',c] else [c])

-- Buckets of ranges written `low<separator>high`. What is no range of the right size is null;
-- the start is padded with zeros, so that the dimension sorts as text.
def rangeBucketFunction (separator : String) (size : Float) (digits : Option Nat)
    (rebucket : Option (Float × Float)) : String :=
  let fraction := match digits with
    | some n => "\\d\x7b" ++ toString n ++ "\x7d"
    | none => "\\d+"
  let number := "((?:-?[1-9]\\d*|0)\\." ++ fraction ++ ")"
  let adjusted := match rebucket with
    | some (size,offset) => " s=" ++ numberFloor "s" size offset ++ ";"
    | none => " "
  "function(d) \x7b\nvar m = d.match(/^" ++ number ++ escapedPattern separator ++ number
    ++ "$/);\nif(!m) return 'null';\nvar s = +m[1];\nif(!(Math.abs(+m[2] - s - "
    ++ Decimal.numberText size ++ ") < 1e-6)) return 'null';" ++ adjusted
    ++ "\nvar parts = String(Math.abs(s)).split('.');\n"
    ++ "parts[0] = ('000000000' + parts[0]).substr(-10);\n"
    ++ "return (s < 0 ?'-':'') + parts.join('.');\n\x7d"

end Script

end OlapQuery.Druid
