import AssetRegistry.Web.Gate
import AssetRegistry.Web.Handlers
import AssetRegistry.Web.Route

namespace AssetRegistry.Web

open Store

/-- What HEAD asks for is found out as for GET. -/
def servedMethod (method : String) : String := if method = "HEAD" then "GET" else method

/-- The work of a route for everyone, for a method it has. -/
def serveOpen (app : App) (r : Request) : OpenRoute → Handling Response
  | .health => health
  | .login => login app r
  | .refresh => refresh app r

/-- The work of a route for a caller who is let in, for a method it has. -/
def serveGuarded (app : App) (actor : Actor) (r : Request) (route : GuardedRoute) : Handling Response :=
  let method := servedMethod r.method
  match route with
  | .users => if method = "GET" then listUsers app r else createUser app actor r
  | .user id =>
    if method = "GET" then getUser id
    else if method = "PATCH" then updateUser app actor id r
    else deleteUser actor id
  | .userTimeline id => userTimeline id
  | .assets => if method = "GET" then listAssets app r else createAsset actor r
  | .assign => assignAsset r
  | .asset id =>
    if method = "GET" then getAsset id
    else if method = "PATCH" then updateAsset actor id r
    else archiveAsset actor id
  | .retrieve id => retrieveAsset id
  | .assetTimeline id => assetTimeline id

/-- The methods of a route as a header tells them. -/
def allowHeader (route : Route) : String := String.intercalate "," route.methods

/-- The answer to a method that the route does not have. -/
def methodNotAllowed : Response := { status := 405 }

/-- The caller of a request to a guarded route, if let in. -/
def letIn (app : App) (r : Request) (route : GuardedRoute) : Except ApiError Actor := do
  let actor ← authenticate app.desk.issuer app.desk.now r
  authorize route.roles actor
  pure actor

/-- Lets the caller in where the route asks for it, then works. Callers who are not let in do not learn more. -/
def handle (app : App) (r : Request) (route : Route) : Handling Response := do
  let served := route.methods.contains r.method
  match route with
  | .unguarded inner => if served then serveOpen app r inner else pure methodNotAllowed
  | .guarded inner =>
    let actor ← allow (letIn app r inner)
    if served then serveGuarded app actor r inner else pure methodNotAllowed

namespace App

/-- Requests that only ask what would be allowed are answered at once where other sites may ask. -/
def isPreflight (app : App) (r : Request) : Bool := app.enableCors && r.method = "OPTIONS"

/-- The methods of the route are told wherever the request's own is not among them. -/
def tellMethods (r : Request) (route : Route) (response : Response) : Response :=
  if route.methods.contains r.method then response else response.withHeader "allow" (allowHeader route)

/-- The response of the route that the path leads to. -/
def respond (app : App) (r : Request) : Dialogue (Option Response) :=
  match Route.ofPath? r.path with
  | none => pure (some { status := if app.isPreflight r then 200 else 404 })
  | some route =>
    if app.isPreflight r then pure (some (tellMethods r route { status := 200 }))
    else do
      match ← (handle app r route).run with
      | .ok response => pure (some (tellMethods r route response))
      | .error e => pure (e.toResponse?.map (tellMethods r route))

/-- The last touches: other sites are let in, and HEAD gets no body. -/
def finish (app : App) (r : Request) (response : Response) : Response :=
  let response := if app.enableCors then response.withHeader "access-control-allow-origin" "*" else response
  if r.method = "HEAD" then { response with body := .empty } else response

/-- The answer to a request; there is none where its work breaks off. -/
def answer (app : App) (r : Request) : Dialogue (Option Response) := do
  return (← app.respond r).map (app.finish r)

/-- The answer where no connection to the store can be had: either the request's own time is up, or the time to wait for
a connection. -/
def refusal (app : App) : Response :=
  if app.api.requestTimeout = 0 then { status := 408 }
  else (ApiError.ofStore (.client .poolTimedOut)).toResponse

/-- The answer to a request while no connection can be had. -/
def answerUnconnected (app : App) (r : Request) : Option Response :=
  ((app.respond r).withoutConnection (some app.refusal)).map (app.finish r)

end App

end AssetRegistry.Web
