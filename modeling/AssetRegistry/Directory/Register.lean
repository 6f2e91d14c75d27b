import AssetRegistry.Store.Dialogue

namespace AssetRegistry.Users

open Store

/-- Gives a user a role; a role already held stays as it is. -/
def addRole (userId : Uuid) (role : Role) : Exchange StoreError Unit := do
  let _ ← execute (.addRole userId role)
  pure ()

def insert (user : NewUser) : Exchange StoreError User := do
  let created ← fetchOne (.insertUser user) User.ofRow
  addRole created.id user.role
  pure created

def lookUp (id : Uuid) : Exchange StoreError (Option User) := fetchOptional (.findUser id) User.ofRow

/-- A live user by address, whatever its case. -/
def lookUpByEmail (email : String) : Exchange StoreError (Option User) :=
  fetchOptional (.findUserByEmail email) User.ofRow

def roles (userId : Uuid) : Exchange StoreError (List Role) := fetchAll (.rolesOf userId) (Row.scalar .label)

/-- Locks a live user for the rest of the transaction; tells whether there is one. -/
def lock (id : Uuid) (exclusive : Bool) : Exchange StoreError Bool := do
  return (← fetchOptional (.lockUser id exclusive) (Row.scalar .uuid)).isSome

/-- Writes the given columns of a live user, if there is one. -/
def write (id : Uuid) (patch : UserPatch) (updatedBy : Uuid) : Exchange StoreError (Option User) :=
  fetchOptional (.updateUser id patch updatedBy) User.ofRow

/-- Stamps a live user as archived; tells whether there was one. -/
def stampArchived (id archivedBy : Uuid) : Exchange StoreError Bool := do
  return 0 < (← execute (.archiveUser id archivedBy))

def searchColumns : List String := ["u.name", "u.email", "u.phone"]

def hasRole : String :=
  "EXISTS (SELECT 1 FROM user_roles fr WHERE fr.user_id = u.id AND fr.role::text = ANY(\x7b\x7d))"

/-- The user has a live ledger row with one of the statuses. -/
def hasLiveStatus : String :=
  "EXISTS (SELECT 1 FROM asset_status fs " ++
  "WHERE fs.assigned_to_user = u.id AND fs.archived_at IS NULL AND fs.status::text = ANY(\x7b\x7d))"

/-- The condition of a template over labels; without labels there is none. -/
def labelsCondition {α : Type} [Vocabulary α] (sql : String) (values : List α) : List Query.Condition :=
  if values.isEmpty then [] else [.template sql (.texts (values.map label))]

/-- The conditions of a list of users, in their fixed order. -/
def listConditions (filter : UserFilter) : List Query.Condition :=
  .raw "u.archived_at IS NULL" :: Query.Condition.ofSearch searchColumns filter.search ++
    Query.Condition.ofAnyOf "u.user_type::text" (filter.userTypes.map label) ++
    labelsCondition hasRole filter.roles ++ labelsCondition hasLiveStatus filter.assetStatuses

/-- The list of live users that a filter wants, by name. -/
def listQuery (filter : UserFilter) (page : Query.Page) : Query.Select where
  base := userListBase
  conditions := listConditions filter
  groupBy := some "u.id"
  order := [("u.name", .ascending), ("u.id", .ascending)]
  page := some page

def fetchList (filter : UserFilter) (page : Query.Page) : Exchange StoreError (List UserSummary) := do
  fetchAll (.listUsers (← checkQuery (listQuery filter page))) UserSummary.ofRow

def summaryQuery (id : Uuid) : Query.Select where
  base := userListBase
  conditions := [.raw "u.archived_at IS NULL", .eq "u.id" (.uuid id)]
  groupBy := some "u.id"

def summary (id : Uuid) : Exchange StoreError (Option UserSummary) := do
  fetchOptional (.listUsers (← checkQuery (summaryQuery id))) UserSummary.ofRow

/-- The assets that a user holds, the latest first. -/
def heldAssets (userId : Uuid) : Exchange StoreError (List HeldAsset) := fetchAll (.heldAssets userId) HeldAsset.ofRow

end AssetRegistry.Users
