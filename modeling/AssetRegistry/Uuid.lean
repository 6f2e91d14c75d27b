import AssetRegistry.Text.Numeral
import AssetRegistry.Text.Split

namespace AssetRegistry

/-- An identifier of a user, an asset or any other row: 128 bits, written as 32 hexadecimal digits in five groups. -/
structure Uuid where
  bits : BitVec 128
  deriving DecidableEq

namespace Uuid

def ofNat (n : Nat) : Uuid := ⟨BitVec.ofNat 128 n⟩

/-- The places of the hyphens among the characters of the grouped form. -/
def hyphenPlaces : List Nat := [8, 13, 18, 23]

def toText (u : Uuid) : String :=
  let ds := Text.hexDigits 32 u.bits.toNat
  .ofList (ds.take 8 ++ '-' :: (ds.drop 8).take 4 ++ '-' :: (ds.drop 12).take 4 ++ '-' :: (ds.drop 16).take 4 ++
    '-' :: ds.drop 20)

def plain? (cs : List Char) : Option Uuid :=
  if cs.length = 32 then (Text.ofHexDigits? cs).map ofNat else none

/-- Reads five groups of 8, 4, 4, 4 and 12 digits with hyphens between them. -/
def grouped? (cs : List Char) : Option Uuid :=
  if cs.length = 36 && hyphenPlaces.all fun i => cs[i]? = some '-' then
    plain? (cs.take 8 ++ (cs.drop 9).take 4 ++ (cs.drop 14).take 4 ++ (cs.drop 19).take 4 ++ cs.drop 24)
  else none

/-- The name under which identifiers are known as resource names; either case will do. -/
def resourceName : List Char := "urn:uuid:".toList

/-- Reads any of the four written forms: digits alone, groups, groups in braces, groups as a resource name. -/
def parse? (s : String) : Option Uuid :=
  let cs := s.toList
  if cs.length = 32 then plain? cs
  else if cs.length = 36 then grouped? cs
  else if cs.length = 38 then
    if cs.head? = some (Char.ofNat 0x7B) && cs.getLast? = some (Char.ofNat 0x7D) then grouped? ((cs.drop 1).take 36)
    else none
  else if cs.length = 45 then
    if (cs.take 9).map Char.toLower = resourceName then grouped? (cs.drop 9) else none
  else none

/-- What is wrong with a text. -/
inductive Fault where
  /-- The character is neither a digit nor a hyphen; places are counted in bytes from one. -/
  | badCharacter (c : Char) (place : Nat)
  /-- Digits alone, but not 32 of them. -/
  | plainLength (length : Nat)
  | groupCount (count : Nat)
  | groupLength (group length : Nat)
  deriving DecidableEq, Repr

def groupLengths : List Nat := [8, 4, 4, 4, 12]

def Fault.message : Fault → String
  | .badCharacter c place =>
    "invalid character: expected an optional prefix of `urn:uuid:` followed by [0-9a-fA-F-], found `" ++
      c.toString ++ "` at " ++ Text.ofNat place
  | .plainLength length => "invalid length: expected length 32 for simple format, found " ++ Text.ofNat length
  | .groupCount count => "invalid group count: expected 5, found " ++ Text.ofNat count
  | .groupLength group length =>
    "invalid group length in group " ++ Text.ofNat group ++ ": expected " ++
      Text.ofNat (groupLengths[group]?.getD 0) ++ ", found " ++ Text.ofNat length

/-- The groups and how many bytes stand around them: braces or, in lower case, the resource name. -/
def unwrap (cs : List Char) : List Char × Nat :=
  if cs.head? = some (Char.ofNat 0x7B) && cs.getLast? = some (Char.ofNat 0x7D) && 2 ≤ cs.length then
    ((cs.drop 1).dropLast, 1)
  else if resourceName.isPrefixOf cs then (cs.drop resourceName.length, resourceName.length)
  else (cs, 0)

/-- What is wrong with a text that is no identifier: a character, else the number of its groups, else the first group of
another length. The last group is measured with what stands around the groups. -/
def fault (cs : List Char) : Fault :=
  let (inner, offset) := unwrap cs
  match inner.dropWhile fun c => c = '-' || (Text.hexValue? c).isSome with
  | c :: rest => .badCharacter c (Text.utf8Length inner - Text.utf8Length (c :: rest) + offset + 1)
  | [] =>
    let groups := Text.splitAll '-' inner
    if groups.length = 1 && offset = 0 then .plainLength cs.length
    else if groups.length ≠ 5 then .groupCount groups.length
    else
      match ((groups.map List.length).take 4).zip groupLengths |>.findIdx? fun (length, wanted) => length ≠ wanted with
      | some i => .groupLength i ((groups[i]?.getD []).length)
      | none => .groupLength 4 (cs.length - 24)

/-- The identifier that a text writes, or what is wrong with the text. -/
def parse (s : String) : Except Fault Uuid :=
  match parse? s with
  | some u => .ok u
  | none => .error (fault s.toList)

end Uuid

end AssetRegistry
