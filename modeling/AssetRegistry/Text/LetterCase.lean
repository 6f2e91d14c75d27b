import AssetRegistry.Text.CaseTable
import AssetRegistry.Text.Blank

namespace AssetRegistry.Text

/-- The code point that a list of runs maps a code point to, if any run covers it. -/
def mappedPoint? (runs : List CaseRun) (point : Nat) : Option Nat :=
  (runs.find? (·.covers point)).map fun run => ((point : Int) + run.shift).toNat

/-- The lower case of one character. A dotted capital I keeps its dot as a combining mark. -/
def lowerChar (c : Char) : List Char :=
  if c.toNat = 0x130 then ['i', Char.ofNat 0x307]
  else [(mappedPoint? lowerRuns c.toNat).elim c Char.ofNat]

/-- The upper case of one character, which may take several. -/
def upperChar (c : Char) : List Char :=
  match upperExpansions.lookup c.toNat with
  | some points => points.map Char.ofNat
  | none => [(mappedPoint? upperRuns c.toNat).elim c Char.ofNat]

/-- The nearest character that is not skipped has case. -/
def meetsCased (neighbours : List Char) : Bool :=
  match neighbours.dropWhile fun c => inRanges caseIgnorableRanges c.toNat with
  | [] => false
  | c :: _ => inRanges casedRanges c.toNat

/-- Lower case letter by letter. A capital sigma at the end of a word takes its final form: `before`
holds the characters already passed, nearest first. -/
def lowerFrom (before : List Char) : List Char → List Char
  | [] => []
  | c :: after =>
    (if c = 'Σ' then (if meetsCased before && !meetsCased after then ['ς'] else ['σ']) else lowerChar c)
      ++ lowerFrom (c :: before) after

def lower (s : String) : String := .ofList (lowerFrom [] s.toList)

/-- The text with its first character in upper case and the rest as it is. -/
def capitalizeChars : List Char → List Char
  | [] => []
  | c :: rest => upperChar c ++ rest

end AssetRegistry.Text
