import AssetRegistry.Text.Blank
import AssetRegistry.Text.Numeral
import AssetRegistry.Uuid

namespace AssetRegistry.Query

/-- An argument bound to a placeholder. -/
inductive Param where
  | text (s : String)
  | texts (values : List String)
  | number (n : Int64)
  | uuid (u : Uuid)
  deriving DecidableEq

/-- A condition of a list query. Text that comes from a caller travels only as a bound argument; the query's text holds
its placeholder, numbered in the order of the conditions. -/
inductive Condition where
  /-- The column has this value. -/
  | eq (column : String) (value : Param)
  /-- One of the columns contains the term, whatever its case. -/
  | search (columns : List String) (term : String)
  /-- The column has one of the values. -/
  | anyOf (column : String) (values : List String)
  /-- Fixed text with one mark where the placeholder goes. -/
  | template (sql : String) (value : Param)
  /-- Fixed text without an argument. -/
  | raw (sql : String)
  deriving DecidableEq

/-- Why a query has no text. -/
inductive Fault where
  | invalidTemplate (sql : String)
  | invalidLimit (limit : Int64)
  | invalidOffset (offset : Int64)
  deriving DecidableEq

/-- The two braces that mark where a template's placeholder goes. -/
def mark : List Char := [Char.ofNat 0x7B, Char.ofNat 0x7D]

def Fault.message : Fault → String
  | .invalidTemplate sql =>
    "Invalid predicate template (expected one '" ++ .ofList mark ++ "' placeholder): " ++ sql
  | .invalidLimit limit => "Invalid limit: " ++ Text.ofInt limit.toInt
  | .invalidOffset offset => "Invalid offset: " ++ Text.ofInt offset.toInt

def templatePieces : List Char → List (List Char)
  | [] => [[]]
  | [c] => [[c]]
  | c :: d :: rest =>
    if [c, d] = mark then [] :: templatePieces rest
    else match templatePieces (d :: rest) with
      | [] => [[c]]
      | piece :: pieces => (c :: piece) :: pieces

def placeholder (number : Nat) : String := "$" ++ Text.ofNat number

/-- The characters with a meaning in search patterns. -/
def isPatternMark (c : Char) : Bool := c = '%' || c = '_' || c = '\\'

/-- A pattern that matches what contains the term literally. -/
def likePattern (term : String) : String :=
  .ofList ('%' :: (term.toList.flatMap fun c => if isPatternMark c then ['\\', c] else [c]) ++ ['%'])

namespace Condition

def param? : Condition → Option Param
  | .eq _ value => some value
  | .search _ term => some (.text (likePattern term))
  | .anyOf _ values => some (.texts values)
  | .template _ value => some value
  | .raw _ => none

/-- The text of a condition whose argument has the given placeholder. -/
def clause (slot : String) : Condition → Except Fault String
  | .eq column _ => .ok (column ++ " = " ++ slot)
  | .search columns _ =>
    .ok ("(" ++ String.intercalate " OR " (columns.map fun column => column ++ " ILIKE " ++ slot) ++ ")")
  | .anyOf column _ => .ok (column ++ " = ANY(" ++ slot ++ ")")
  | .template sql _ =>
    match templatePieces sql.toList with
    | [before, after] => .ok (.ofList before ++ slot ++ .ofList after)
    | _ => .error (.invalidTemplate sql)
  | .raw sql => .ok sql

/-- The texts and arguments of conditions whose placeholders follow the first `start` ones. -/
def clauses : (start : Nat) → List Condition → Except Fault (List String × List Param)
  | _, [] => .ok ([], [])
  | start, c :: cs => do
    let text ← c.clause (placeholder (start + 1))
    let (texts, params) ← clauses (start + c.param?.toList.length) cs
    pure (text :: texts, c.param?.toList ++ params)

/-- The body of a WHERE clause that all conditions together make. No condition at all is a condition that always
holds. -/
def render (start : Nat) (conditions : List Condition) : Except Fault (String × List Param) := do
  let (texts, params) ← clauses start conditions
  pure (if texts.isEmpty then "1=1" else String.intercalate " AND " texts, params)

/-- The condition that a search makes; a blank term, or one with no columns to look in, makes none. -/
def ofSearch (columns : List String) (term : Option String) : List Condition :=
  match term.map Text.trim with
  | some term => if term.isEmpty || columns.isEmpty then [] else [.search columns term]
  | none => []

/-- The condition that a column has one of the values; with no values there is none. -/
def ofAnyOf (column : String) (values : List String) : List Condition :=
  if values.isEmpty then [] else [.anyOf column values]

end Condition

end AssetRegistry.Query
