import AssetRegistry.Directory.Basic
import AssetRegistry.Json.Record

namespace AssetRegistry

/-- What is written to log in. -/
structure Login where
  email : String
  role : Option Role
  deriving DecidableEq

/-- What is written to renew an access token. -/
structure Refresh where
  refreshToken : String
  /-- The access token last held, which may have expired. -/
  accessToken : String
  deriving DecidableEq

/-- What is written to register a user. -/
structure CreateUser where
  name : String
  email : String
  phone : Option String
  userType : UserType
  role : Role
  deriving DecidableEq

open Json

def Login.record : Record := ⟨"LoginRequest", [.required "email" .text, .optional "role" (.label (α := Role))]⟩

def Login.decoder : Decoder Login := record.decoder fun (email, role, _) => { email, role }

def Refresh.record : Record := ⟨"RefreshRequest", [.required "refresh_token" .text, .required "access_token" .text]⟩

def Refresh.decoder : Decoder Refresh :=
  record.decoder fun (refreshToken, accessToken, _) => { refreshToken, accessToken }

def CreateUser.record : Record :=
  ⟨"CreateUserRequest",
    [.required "name" .text, .required "email" .text, .optional "phone" .text,
     .withDefault "user_type" (.label (α := UserType)) .fullTime, .required "role" (.label (α := Role))]⟩

def CreateUser.decoder : Decoder CreateUser :=
  record.decoder fun (name, email, phone, userType, role, _) => { name, email, phone, userType, role }

def UserPatch.record : Record :=
  ⟨"UserPatch",
    [.optional "name" .text, .optional "email" .text, .optional "phone" .text,
     .optional "user_type" (.label (α := UserType))]⟩

def UserPatch.decoder : Decoder UserPatch :=
  record.decoder fun (name, email, phone, userType, _) => { name, email, phone, userType }

end AssetRegistry
