import AssetRegistry.Query.Condition
import AssetRegistry.Query.Page

namespace AssetRegistry.Query

inductive Direction where
  | ascending
  | descending
  deriving DecidableEq, Repr

def Direction.sql : Direction → String
  | .ascending => "ASC"
  | .descending => "DESC"

/-- The columns that order the rows, the first one first. -/
abbrev Order := List (String × Direction)

/-- The ORDER BY clause; without columns there is none. -/
def Order.render (order : Order) : String :=
  if order.isEmpty then ""
  else "ORDER BY " ++ String.intercalate ", " (order.map fun (column, direction) => column ++ " " ++ direction.sql)

/-- The text of a query with the arguments of its placeholders in order. -/
structure Rendered where
  text : String
  params : List Param
  deriving DecidableEq

/-- A window that has rows and does not begin before the first one. -/
def checkPage (page : Page) : Except Fault Unit :=
  if page.limit < 1 then .error (.invalidLimit page.limit)
  else if page.offset < 0 then .error (.invalidOffset page.offset)
  else .ok ()

/-- A list query: a fixed beginning, then conditions, groups, order and window. -/
structure Select where
  base : String
  conditions : List Condition := []
  groupBy : Option String := none
  order : Order := []
  page : Option Page := none

/-- The window's clause after `count` arguments, and its own arguments. -/
def windowClause (count : Nat) : Option Page → String × List Param
  | some page =>
    ("LIMIT " ++ placeholder (count + 1) ++ " OFFSET " ++ placeholder (count + 2),
      [.number page.limit, .number page.offset])
  | none => ("", [])

/-- The query's text and arguments. A bad window is reported before bad conditions. -/
def Select.render (q : Select) : Except Fault Rendered := do
  q.page.forM checkPage
  let (conditions, params) ← Condition.render 0 q.conditions
  let (window, windowParams) := windowClause params.length q.page
  let parts := [Text.trim q.base, "WHERE " ++ conditions, q.groupBy.elim "" ("GROUP BY " ++ ·), q.order.render, window]
  pure ⟨String.intercalate " " (parts.filter fun part => !part.isEmpty), params ++ windowParams⟩

end AssetRegistry.Query
