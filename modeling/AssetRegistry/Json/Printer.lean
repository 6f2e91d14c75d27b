import AssetRegistry.Json.Basic
import AssetRegistry.Number.Shortest
import AssetRegistry.Text.Numeral

namespace AssetRegistry.Json

def escapeChar (c : Char) : List Char :=
  if c = '"' then ['\\', '"']
  else if c = '\\' then ['\\', '\\']
  else if c = '\n' then ['\\', 'n']
  else if c = '\r' then ['\\', 'r']
  else if c = '\t' then ['\\', 't']
  else if c.toNat = 8 then ['\\', 'b']
  else if c.toNat = 12 then ['\\', 'f']
  else if c.toNat < 0x20 then ['\\', 'u'] ++ Text.hexDigits 4 c.toNat
  else [c]

def stringText (s : String) : List Char := '"' :: s.toList.flatMap escapeChar ++ ['"']

mutual

/-- The text of a value. A double that is no finite number is written as null. -/
def print : Json → List Char
  | .null => "null".toList
  | .flag true => "true".toList
  | .flag false => "false".toList
  | .whole n => (Text.ofInt n).toList
  | .double d => if d.isFinite then d.toText.toList else "null".toList
  | .text s => stringText s
  | .array items => '[' :: printItems items ++ [']']
  | .object entries => Char.ofNat 0x7B :: printEntries entries ++ [Char.ofNat 0x7D]

/-- The items of an array with commas between them. -/
def printItems : List Json → List Char
  | [] => []
  | [item] => print item
  | item :: rest => print item ++ ',' :: printItems rest

/-- The entries of an object with commas between them. -/
def printEntries : List (String × Json) → List Char
  | [] => []
  | [(key, value)] => stringText key ++ ':' :: print value
  | (key, value) :: rest => stringText key ++ ':' :: print value ++ ',' :: printEntries rest

end

def toText (j : Json) : String := .ofList j.print

end AssetRegistry.Json
