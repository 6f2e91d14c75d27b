import AssetRegistry.Query.Page
import AssetRegistry.Text.Percent
import AssetRegistry.Vocabulary
import AssetRegistry.Web.Failure

namespace AssetRegistry.Web

/-- The names and values of a query in their order. -/
abbrev Params := List (String × String)

namespace Params

def ofQuery (query : String) : Params := Text.formPairs query

def values (ps : Params) (name : String) : List String := (ps.filter (·.1 = name)).map (·.2)

/-- The first value of a name that is not blank, without blanks around it. -/
def text? (ps : Params) (name : String) : Option String :=
  ((ps.values name).map Text.trim).find? (!·.isEmpty)

def label {α : Type} [Vocabulary α] (name value : String) : Except ApiError α :=
  (Vocabulary.parse value).mapError fun e => ⟨.badRequest, "invalid " ++ name ++ ": " ++ e.message⟩

/-- The value that the first text of a name is the label of. -/
def one? {α : Type} [Vocabulary α] (ps : Params) (name : String) : Except ApiError (Option α) :=
  (ps.text? name).mapM (label name)

/-- The pieces of a text between commas, without blanks around them and without blank ones. -/
def segments (s : String) : List String :=
  ((Text.splitAll ',' s.toList).map fun piece => Text.trim (.ofList piece)).filter (!·.isEmpty)

/-- The values that the pieces of all texts of a name are the labels of. -/
def many {α : Type} [Vocabulary α] (ps : Params) (name : String) : Except ApiError (List α) :=
  ((ps.values name).flatMap segments).mapM (label name)

/-- The window that the parameters ask for. What is no number counts as not given. -/
def page (ps : Params) (usual most : Int64) : Query.Page :=
  let number (name : String) : Option Int64 := (ps.text? name).bind Text.int64?
  .new (number "page") (number "limit") usual most

end Params

end AssetRegistry.Web
