import AssetRegistry.Text.Percent
import AssetRegistry.Vocabulary

namespace AssetRegistry.Web

/-- Routes for everyone. -/
inductive OpenRoute where
  | health
  | login
  | refresh
  deriving DecidableEq, Repr

/-- Routes for callers in certain roles. -/
inductive GuardedRoute where
  | users
  | user (id : List Char)
  | userTimeline (id : List Char)
  | assets
  | assign
  | asset (id : List Char)
  | retrieve (id : List Char)
  | assetTimeline (id : List Char)
  deriving DecidableEq, Repr

inductive Route where
  | unguarded (route : OpenRoute)
  | guarded (route : GuardedRoute)
  deriving DecidableEq, Repr

def GuardedRoute.roles : GuardedRoute → List Role
  | .users => [.admin, .employeeManager]
  | .user _ => [.admin, .employeeManager]
  | .userTimeline _ => [.admin, .employeeManager, .assetManager]
  | .assets => [.admin, .assetManager]
  | .assign => [.admin, .assetManager]
  | .asset _ => [.admin, .assetManager]
  | .retrieve _ => [.admin, .assetManager]
  | .assetTimeline _ => [.admin, .assetManager]

namespace Route

/-- The route of a path's pieces, the first of which stands before the first slash and is empty. -/
def ofPieces? : List (List Char) → Option Route
  | [[], a] => if a = "health".toList then some (.unguarded .health) else none
  | [[], a, b] =>
    if a != "api".toList then none
    else if b = "users".toList then some (.guarded .users)
    else if b = "assets".toList then some (.guarded .assets)
    else none
  | [[], a, b, c] =>
    if a != "api".toList || c.isEmpty then none
    else if b = "auth".toList then
      if c = "login".toList then some (.unguarded .login)
      else if c = "refresh".toList then some (.unguarded .refresh)
      else none
    else if b = "users".toList then some (.guarded (.user c))
    else if b = "assets".toList then some (.guarded (if c = "assign".toList then .assign else .asset c))
    else none
  | [[], a, b, c, d] =>
    if a != "api".toList || c.isEmpty then none
    else if b = "users".toList && d = "timeline".toList then some (.guarded (.userTimeline c))
    else if b = "assets".toList && d = "retrieve".toList then some (.guarded (.retrieve c))
    else if b = "assets".toList && d = "timeline".toList then some (.guarded (.assetTimeline c))
    else none
  | _ => none

/-- A path is matched as it is written, piece by piece; a piece that names something may be any text but the empty one.
-/
def ofPath? (path : List Char) : Option Route := ofPieces? (Text.splitAll '/' path)

/-- The methods of a route in the order in which they are told. What is served to GET is served to HEAD as well. -/
def methods : Route → List String
  | .unguarded .health => ["GET", "HEAD"]
  | .unguarded .login => ["POST"]
  | .unguarded .refresh => ["POST"]
  | .guarded .users => ["GET", "HEAD", "POST"]
  | .guarded (.user _) => ["GET", "HEAD", "PATCH", "DELETE"]
  | .guarded (.userTimeline _) => ["GET", "HEAD"]
  | .guarded .assets => ["GET", "HEAD", "POST"]
  | .guarded .assign => ["POST"]
  | .guarded (.asset _) => ["GET", "HEAD", "PATCH", "DELETE"]
  | .guarded (.retrieve _) => ["POST"]
  | .guarded (.assetTimeline _) => ["GET", "HEAD"]

end Route

end AssetRegistry.Web
