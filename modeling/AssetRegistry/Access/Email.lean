import AssetRegistry.Access.Fault
import AssetRegistry.Text.LetterCase
import AssetRegistry.Text.Regex
import AssetRegistry.Text.Split

namespace AssetRegistry

/-- Who may log in: the people with addresses at one domain, which is kept in lower case and without blanks around it. -/
structure EmailPolicy where
  domain : String
  deriving DecidableEq, Repr

namespace EmailPolicy

def ofDomain (domain : String) : EmailPolicy := ⟨Text.lower (Text.trim domain)⟩

/-- The text of the regular expression for addresses of one name, or of two with a point between them, at the domain.
Nothing in the domain has a meaning of its own there. -/
def pattern (p : EmailPolicy) : String := "^[a-z]+(\\.[a-z]+)?@" ++ Text.Regex.escape p.domain ++ "$"

def accepts (p : EmailPolicy) (address : String) : Bool := (Text.Regex.ofText? p.pattern).any (·.isFoundIn address)

/-- The address in lower case and without blanks around it, if it is accepted. -/
def validate (p : EmailPolicy) (address : String) : Except AuthError String :=
  let normalized := Text.lower (Text.trim address)
  if p.accepts normalized then .ok normalized else .error (.invalidEmail (Text.trim address))

end EmailPolicy

/-- A name to show for an address: the parts of what stands before the at sign, each with its first letter in upper
case. -/
def displayName (address : String) : String :=
  let parts := (Text.splitAll '.' (address.toList.takeWhile (· != '@'))).filter (!·.isEmpty)
  String.intercalate " " (parts.map fun part => .ofList (Text.capitalizeChars part))

end AssetRegistry
