import AssetRegistry.Json.Basic
import AssetRegistry.Number.Shortest
import AssetRegistry.Text.Quoted

namespace AssetRegistry.Json

/-- What a reader met, as far as messages tell it. -/
inductive Found where
  | null
  | flag (b : Bool)
  | whole (n : Int)
  | double (d : Binary64)
  | text (s : String)
  | sequence
  | map

def Found.message : Found → String
  | .null => "null"
  | .flag b => "boolean `" ++ (if b then "true" else "false") ++ "`"
  | .whole n => "integer `" ++ Text.ofInt n ++ "`"
  | .double d => "floating point `" ++ d.toText ++ "`"
  | .text s => "string " ++ Text.quoted s
  | .sequence => "sequence"
  | .map => "map"

def found : Json → Found
  | .null => .null
  | .flag b => .flag b
  | .whole n => .whole n
  | .double d => .double d
  | .text s => .text s
  | .array _ => .sequence
  | .object _ => .map

/-- Why a JSON value is not what its reader wants. -/
inductive Mismatch where
  | wrongType (found : Found) (wanted : String)
  | wrongValue (found : Found) (wanted : String)
  | wrongLength (length : Nat) (wanted : String)
  | missingField (name : String)
  | duplicateField (name : String)
  | unknownVariant (label : String) (expected : List String)
  /-- The text of a date, an identifier or the like does not read. -/
  | unreadable (message : String)

/-- The variants of a type as messages list them: two are joined by "or". -/
def variantList : List String → String
  | [] => "there are no variants"
  | [a] => "expected `" ++ a ++ "`"
  | [a, b] => "expected `" ++ a ++ "` or `" ++ b ++ "`"
  | more => "expected one of " ++ String.intercalate ", " (more.map fun a => "`" ++ a ++ "`")

def Mismatch.message : Mismatch → String
  | .wrongType found wanted => "invalid type: " ++ found.message ++ ", expected " ++ wanted
  | .wrongValue found wanted => "invalid value: " ++ found.message ++ ", expected " ++ wanted
  | .wrongLength length wanted => "invalid length " ++ Text.ofNat length ++ ", expected " ++ wanted
  | .missingField name => "missing field `" ++ name ++ "`"
  | .duplicateField name => "duplicate field `" ++ name ++ "`"
  | .unknownVariant label expected => "unknown variant `" ++ label ++ "`, " ++ variantList expected
  | .unreadable message => message

end AssetRegistry.Json
