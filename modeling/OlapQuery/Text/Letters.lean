import OlapQuery.Unicode.Derived

-- Characters by what they are for a reader, and text in quotes.

namespace OlapQuery.Text

def isAlphabetic (c : Char) : Bool :=
  Unicode.alphabetic.contains c.toNat

def isAlphanumeric (c : Char) : Bool :=
  Unicode.alphanumeric.contains c.toNat

def isBlank (c : Char) : Bool :=
  Unicode.whiteSpace.contains c.toNat

-- Quoted text writes hidden characters by code point.
def isHidden (c : Char) : Bool :=
  Unicode.hidden.contains c.toNat

-- Text between double quotes, in which every character can be told from its written form.
def quotedChar (c : Char) : String :=
  match c with
  | '"' => "\\\""
  | '\\' => "\\\\"
  | '\n' => "\\n"
  | '\r' => "\\r"
  | '\t' => "\\t"
  | c =>
      if c.toNat == 0 then "\\0"
      else if isHidden c then "\\u\x7b" ++ hexDigits c.toNat ++ "\x7d"
      else c.toString

def quoted (text : String) : String :=
  "\"" ++ String.join (text.toList.map quotedChar) ++ "\""

end OlapQuery.Text
