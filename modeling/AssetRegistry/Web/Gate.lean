import AssetRegistry.Token.Issuer
import AssetRegistry.Web.Failure

namespace AssetRegistry.Web

def bearerMark : List Char := "Bearer ".toList

/-- The token of a request, or what is wrong with its header. -/
def bearerToken (r : Request) : Except String String :=
  match r.header? "authorization" with
  | none => .error "Missing Authorization header"
  | some bytes =>
    match headerText? bytes with
    | none => .error "Invalid Authorization header format"
    | some value =>
      if bearerMark.isPrefixOf value.toList then
        let token := Text.trim (.ofList (value.toList.drop bearerMark.length))
        if token.isEmpty then .error "Empty JWT token" else .ok token
      else .error "Authorization header must use Bearer token format"

/-- The bearer of the access token in the authorization header. -/
def authenticate (issuer : Issuer) (now : Instant) (r : Request) : Except ApiError Actor := do
  let token ← (bearerToken r).mapError fun m => ⟨.unauthorized, m⟩
  let claims ← (issuer.verifyAccess now token).mapError fun e => ⟨.unauthorized, e.message⟩
  pure { userId := claims.userId, role := claims.role }

def authorize (allowed : List Role) (actor : Actor) : Except ApiError Unit :=
  if allowed.contains actor.role then .ok ()
  else .error ⟨.forbidden, "Role '" ++ label actor.role ++ "' is not permitted"⟩

end AssetRegistry.Web
