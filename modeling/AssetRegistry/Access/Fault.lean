namespace AssetRegistry

/-- Why a caller is not let in, or no token can be made. -/
inductive AuthError where
  | tokenGeneration (why : String)
  | invalidSecret
  /-- The setting of this name gives a lifetime that no span of time has. -/
  | invalidTtl (setting : String)
  | expired
  | invalidToken (why : String)
  | invalidEmail (address : String)
  /-- The calendar ends before the token would expire. Nothing can be said of such a token, not even that it failed. -/
  | beyondCalendar
  deriving DecidableEq, Repr

def AuthError.message : AuthError → String
  | .tokenGeneration why => "JWT generation error: " ++ why
  | .invalidSecret => "Invalid JWT secret"
  | .invalidTtl setting => "Token lifetime out of range: " ++ setting
  | .expired => "Token expired"
  | .invalidToken why => "Invalid token: " ++ why
  | .invalidEmail address => "Invalid email: " ++ address
  | .beyondCalendar => ""

end AssetRegistry
