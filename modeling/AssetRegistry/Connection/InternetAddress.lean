import AssetRegistry.Text.Numeral
import AssetRegistry.Text.Split

namespace AssetRegistry.Connection

/-- One of the four numbers of a short address: no leading zeros, at most 255. -/
def octet? (cs : List Char) : Option Nat := do
  let n ← Text.digits? cs
  if n ≤ 255 && (cs.length = 1 || cs.head? != some '0') then some n else none

def shortAddress? (cs : List Char) : Option (List Nat) :=
  let parts := Text.splitAll '.' cs
  if parts.length = 4 then parts.mapM octet? else none

/-- A piece of a long address: up to four hexadecimal digits. -/
def piece? (cs : List Char) : Option Nat :=
  if cs.isEmpty || 4 < cs.length then none else Text.ofHexDigits? cs

/-- The pieces of one side of a long address; the last ones may be written as a short address. -/
def pieces? (cs : List Char) : Option (List Nat) :=
  if cs.isEmpty then some []
  else
    let parts := Text.splitAll ':' cs
    match parts.getLast? with
    | none => none
    | some last =>
      if last.contains '.' then do
        let before ← parts.dropLast.mapM piece?
        match ← shortAddress? last with
        | [a, b, c, d] => some (before ++ [a * 256 + b, c * 256 + d])
        | _ => none
      else parts.mapM piece?

/-- What stands before and after the first two colons in a row. -/
def splitGap : List Char → Option (List Char × List Char)
  | ':' :: ':' :: rest => some ([], rest)
  | c :: rest => (splitGap rest).map fun (before, after) => (c :: before, after)
  | [] => none

/-- The eight pieces of a long address. Two colons in a row stand for all the zeros that are left out, at least one. -/
def longAddress? (cs : List Char) : Option (List Nat) :=
  match splitGap cs with
  | none => do
    let pieces ← pieces? cs
    if pieces.length = 8 then some pieces else none
  | some (before, after) => do
    let before' ← pieces? before
    let after' ← pieces? after
    if before.contains '.' || 8 ≤ before'.length + after'.length then none
    else some (before' ++ List.replicate (8 - before'.length - after'.length) 0 ++ after')

/-- The place and length of the first of the longest runs of zeros. -/
def longestGap : (place : Nat) → List Nat → Nat × Nat
  | _, [] => (0, 0)
  | place, p :: rest =>
    let here := ((p :: rest).takeWhile (· = 0)).length
    let (start, length) := longestGap (place + 1) rest
    if length ≤ here then (place, here) else (start, length)

def piecesText (pieces : List Nat) : String :=
  String.intercalate ":" (pieces.map fun p => .ofList (Nat.toDigits 16 p))

/-- The usual text of a long address: the longest run of two zeros or more is left out. -/
def longAddressText (pieces : List Nat) : String :=
  let (start, length) := longestGap 0 pieces
  if length < 2 then piecesText pieces
  else piecesText (pieces.take start) ++ "::" ++ piecesText (pieces.drop (start + length))

end AssetRegistry.Connection
