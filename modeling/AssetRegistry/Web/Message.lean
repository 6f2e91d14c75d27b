import AssetRegistry.Json.Basic
import AssetRegistry.Text.Percent

namespace AssetRegistry.Web

/-- A request. The target is the path and, behind a question mark, the query; header names are compared without regard
to case, and their values are bytes. -/
structure Request where
  method : String
  target : String
  headers : List (String × Text.Bytes) := []
  body : String := ""

namespace Request

/-- The characters of the target before a fragment. -/
def targetChars (r : Request) : List Char := r.target.toList.takeWhile (· != '#')

def path (r : Request) : List Char := r.targetChars.takeWhile (· != '?')

/-- The query without its question mark; no query is as good as an empty one. -/
def query (r : Request) : String := .ofList ((r.targetChars.dropWhile (· != '?')).drop 1)

def header? (r : Request) (name : String) : Option Text.Bytes :=
  (r.headers.find? fun header => header.1.toList.map Char.toLower = name.toList).map (·.2)

end Request

/-- The text of a header value that holds nothing but visible ASCII characters, blanks and tabs. -/
def headerText? (bytes : Text.Bytes) : Option String :=
  if bytes.all fun b => b = 9 || (32 ≤ b && b < 127) then
    some (.ofList (bytes.map fun b => Char.ofNat b.toNat))
  else none

inductive Body where
  | empty
  | json (j : Json)
  | text (s : String)

structure Response where
  status : Nat
  headers : List (String × String) := []
  body : Body := .empty

namespace Response

def ofJson (status : Nat) (j : Json) : Response :=
  { status, headers := [("content-type", "application/json")], body := .json j }

def ofText (status : Nat) (s : String) : Response :=
  { status, headers := [("content-type", "text/plain; charset=utf-8")], body := .text s }

def withHeader (r : Response) (name value : String) : Response := { r with headers := r.headers ++ [(name, value)] }

def ofData (status : Nat) (data : Json) : Response := ofJson status (.object [("success", .flag true), ("data", data)])

def success (data : Json) : Response := ofData 200 data

def created (data : Json) : Response := ofData 201 data

def noContent : Response := { status := 204 }

end Response

end AssetRegistry.Web
