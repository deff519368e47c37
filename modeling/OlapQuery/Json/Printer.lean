import OlapQuery.Json.Basic
import OlapQuery.Text.Letters

-- JSON text: compact, or indented by two blanks for each level. Only quotes, backslashes and
-- control characters are escaped.

namespace OlapQuery.Json

def escapedChar (c : Char) : String :=
  match c with
  | '"' => "\\\""
  | '\\' => "\\\\"
  | '\n' => "\\n"
  | '\r' => "\\r"
  | '\t' => "\\t"
  | c =>
      if c.toNat == 8 then "\\b"
      else if c.toNat == 12 then "\\f"
      else if c.toNat < 0x20 then
        "\\u00" ++ (if c.toNat < 0x10 then "0" else "") ++ Text.hexDigits c.toNat
      else c.toString

def stringText (text : String) : String :=
  "\"" ++ String.join (text.toList.map escapedChar) ++ "\""

mutual
def compact : Json → String
  | .null => "null"
  | .bool b => if b then "true" else "false"
  | .int n => toString n
  | .float x => Decimal.Layout.json.write x
  | .str s => stringText s
  | .arr items => "[" ++ String.intercalate "," (compactItems items) ++ "]"
  | .obj fields => "\x7b" ++ String.intercalate "," (compactFields fields) ++ "\x7d"

def compactItems : List Json → List String
  | [] => []
  | j :: rest => compact j :: compactItems rest

def compactFields : List (String × Json) → List String
  | [] => []
  | (name,j) :: rest => (stringText name ++ ":" ++ compact j) :: compactFields rest
end

-- Lines between the brackets, each on its level; an empty list or object has none.
def block (opening closing : String) (level : Nat) (lines : List String) : String :=
  if lines.isEmpty then opening ++ closing
  else
    let indent (n : Nat) : String := String.ofList (List.replicate (2 * n) ' ')
    opening ++ "\n"
      ++ String.intercalate ",\n" (lines.map (indent (level + 1) ++ ·))
      ++ "\n" ++ indent level ++ closing

mutual
def prettyAt (level : Nat) : Json → String
  | .arr items => block "[" "]" level (prettyItems (level + 1) items)
  | .obj fields => block "\x7b" "\x7d" level (prettyFields (level + 1) fields)
  | .null => "null"
  | .bool b => if b then "true" else "false"
  | .int n => toString n
  | .float x => Decimal.Layout.json.write x
  | .str s => stringText s

def prettyItems (level : Nat) : List Json → List String
  | [] => []
  | j :: rest => prettyAt level j :: prettyItems level rest

def prettyFields (level : Nat) : List (String × Json) → List String
  | [] => []
  | (name,j) :: rest => (stringText name ++ ": " ++ prettyAt level j) :: prettyFields level rest
end

def pretty (j : Json) : String :=
  prettyAt 0 j

end OlapQuery.Json
