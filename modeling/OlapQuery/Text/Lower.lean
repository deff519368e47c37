import OlapQuery.Unicode.Case
import OlapQuery.Unicode.Derived

-- Lower case for all of Unicode.

namespace OlapQuery.Text

def lowerChar (c : Char) : List Char :=
  let n := c.toNat
  if n < 0x80 then [c.toLower]
  -- The capital I with a dot keeps its dot as a mark.
  else if n == 0x130 then [Char.ofNat 0x69,Char.ofNat 0x307]
  else [Char.ofNat (Unicode.lowerCode n)]

def isCased (c : Char) : Bool :=
  Unicode.cased.contains c.toNat

def isCaseIgnorable (c : Char) : Bool :=
  Unicode.caseIgnorable.contains c.toNat

def startsCased (text : List Char) : Bool :=
  match text.dropWhile isCaseIgnorable with
  | c :: _ => isCased c
  | [] => false

-- A capital sigma at the end of a word has a form of its own: a cased letter stands before it
-- and none after it, not counting ignorable characters. `before` is in reverse.
def lowerFrom (before : List Char) : List Char → List Char
  | [] => []
  | c :: rest =>
      let lowered :=
        if c.toNat == 0x3A3 then
          if startsCased before && !startsCased rest then [Char.ofNat 0x3C2]
          else [Char.ofNat 0x3C3]
        else lowerChar c
      lowered ++ lowerFrom (c :: before) rest

def lower (text : String) : String :=
  String.ofList (lowerFrom [] text.toList)

end OlapQuery.Text
