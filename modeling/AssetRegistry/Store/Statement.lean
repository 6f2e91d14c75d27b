import AssetRegistry.Asset.Basic
import AssetRegistry.Directory.Basic
import AssetRegistry.Query.Select
import AssetRegistry.Specs.Patch

namespace AssetRegistry.Store

/-- The statements that the registry sends to its store, one constructor for each kind, so that what a statement means
can be told without its text. The text and the bound arguments are `Statement.text` and `Statement.args`. -/
inductive Statement where
  /-- Asks whether the store answers at all. -/
  | ping
  | findBrand (name : String)
  | insertBrand (name : String)
  | findModel (name : String) (brandId : Uuid) (assetType : AssetType)
  | insertModel (name : String) (brandId : Uuid) (assetType : AssetType)
  | findAttributes (assetType : AssetType) (id : Uuid)
  | insertAttributes (attributes : Attributes)
  | updateAttributes (patch : AttributesPatch) (id : Uuid)
  | insertAsset (asset : NewAsset)
  | updateAsset (id : Uuid) (patch : AssetPatch) (updatedBy : Uuid)
  | lockAsset (id : Uuid)
  | archiveAsset (id archivedBy : Uuid)
  | assetExists (id : Uuid)
  | findAsset (id : Uuid)
  | listAssets (query : Query.Rendered)
  /-- Adds a ledger row that no user takes part in. -/
  | recordStatus (assetId : Uuid) (status : AssetStatus)
  /-- Asks whether the asset has a live row with the status `assigned`. -/
  | isAssigned (assetId : Uuid)
  | insertAssignment (assetId userId : Uuid)
  | findAssignment (assetId : Uuid)
  | archiveEntry (id : Uuid)
  | assetTimeline (assetId : Uuid)
  | userTimeline (userId : Uuid)
  | countAssignments (userId : Uuid)
  | insertUser (user : NewUser)
  | addRole (userId : Uuid) (role : Role)
  | findUser (id : Uuid)
  | findUserByEmail (email : String)
  | rolesOf (userId : Uuid)
  /-- Locks a live user, against all others or only against those who want that. -/
  | lockUser (id : Uuid) (exclusive : Bool)
  | updateUser (id : Uuid) (patch : UserPatch) (updatedBy : Uuid)
  | archiveUser (id archivedBy : Uuid)
  /-- Lists users, or looks one up, with roles and number of assets. -/
  | listUsers (query : Query.Rendered)
  | heldAssets (userId : Uuid)

def commaList (names : List String) : String := String.intercalate ", " names

/-- The placeholders of `count` arguments that follow the first `start` ones. -/
def placeholders (start count : Nat) : List String := (List.range count).map fun i => Query.placeholder (start + i + 1)

def entryColumns : String := "id, asset_id, status, assigned_to_user, sent_to_service, created_at, archived_at"

def userColumns : String := "id, name, email, phone, user_type, created_at, updated_at, updated_by, archived_at"

/-- The newest live ledger row of each asset; an asset without one is available. -/
def currentStatusJoin : String :=
  "LEFT JOIN LATERAL ( SELECT s.status, s.assigned_to_user FROM asset_status s " ++
  "WHERE s.asset_id = a.id AND s.archived_at IS NULL ORDER BY s.created_at DESC LIMIT 1 ) cs ON true"

def catalogueJoin : String := "JOIN asset_models m ON m.id = a.model_id JOIN asset_brands b ON b.id = m.brand_id"

def assetListBase : String :=
  "SELECT a.id, a.serial_no, m.asset_type, b.name AS brand, m.name AS model, a.owned_by, " ++
  "COALESCE(cs.status, 'available') AS status, cs.assigned_to_user AS assigned_to, u.name AS assigned_to_name, " ++
  "a.purchased_date, a.warranty_exp_date, a.created_at FROM assets a " ++ catalogueJoin ++ " " ++ currentStatusJoin ++
  " LEFT JOIN users u ON u.id = cs.assigned_to_user"

def userListBase : String :=
  "SELECT u.id, u.name, u.email, u.phone, u.user_type, " ++
  "COALESCE(array_agg(r.role ORDER BY r.role) FILTER (WHERE r.role IS NOT NULL), '\x7b\x7d') AS roles, " ++
  "(SELECT COUNT(*) FROM asset_status s " ++
  "WHERE s.assigned_to_user = u.id AND s.status = 'assigned' AND s.archived_at IS NULL) AS active_assets, " ++
  "u.created_at FROM users u LEFT JOIN user_roles r ON r.user_id = u.id"

namespace Statement

/-- The text of a statement, with one blank between its words. -/
def text : Statement → String
  | .ping => "SELECT 1"
  | .findBrand _ => "SELECT id, name FROM asset_brands WHERE lower(name) = lower($1)"
  | .insertBrand _ => "INSERT INTO asset_brands (name) VALUES ($1) ON CONFLICT DO NOTHING RETURNING id, name"
  | .findModel _ _ _ =>
    "SELECT id, name, asset_type, brand_id FROM asset_models " ++
    "WHERE lower(name) = lower($1) AND brand_id = $2 AND asset_type = $3"
  | .insertModel _ _ _ =>
    "INSERT INTO asset_models (name, brand_id, asset_type) VALUES ($1, $2, $3) ON CONFLICT DO NOTHING " ++
    "RETURNING id, name, asset_type, brand_id"
  | .findAttributes t _ =>
    "SELECT " ++ commaList ((Specs.columns t).map (·.name)) ++ " FROM " ++ Specs.table t ++ " WHERE id = $1"
  | .insertAttributes a =>
    let names := (Specs.columns a.type).map (·.name)
    "INSERT INTO " ++ Specs.table a.type ++ " (" ++ commaList names ++ ") VALUES (" ++
      commaList (placeholders 0 names.length) ++ ") RETURNING id"
  | .updateAttributes p _ =>
    let names := p.changedColumns
    let sets := (names.zip (placeholders 0 names.length)).map fun (name, slot) => name ++ " = " ++ slot
    "UPDATE " ++ Specs.table p.type ++ " SET " ++ commaList sets ++ " WHERE id = " ++
      Query.placeholder (names.length + 1)
  | .insertAsset _ =>
    "INSERT INTO assets ( model_id, specs_id, serial_no, owned_by, purchased_date, " ++
    "warranty_start_date, warranty_exp_date, created_by ) VALUES ($1, $2, $3, $4, $5, $6, $7, $8) RETURNING id"
  | .updateAsset _ _ _ =>
    "UPDATE assets SET serial_no = COALESCE($2, serial_no), owned_by = COALESCE($3, owned_by), " ++
    "purchased_date = COALESCE($4, purchased_date), " ++
    "warranty_start_date = COALESCE($5, warranty_start_date), " ++
    "warranty_exp_date = COALESCE($6, warranty_exp_date), updated_by = $7, updated_at = now() " ++
    "WHERE id = $1 AND archived_at IS NULL"
  | .lockAsset _ => "SELECT id FROM assets WHERE id = $1 AND archived_at IS NULL FOR UPDATE"
  | .archiveAsset _ _ =>
    "UPDATE assets SET archived_at = now(), updated_by = $2, updated_at = now() " ++
    "WHERE id = $1 AND archived_at IS NULL"
  | .assetExists _ => "SELECT EXISTS (SELECT 1 FROM assets WHERE id = $1)"
  | .findAsset _ =>
    "SELECT a.id, a.serial_no, a.owned_by, a.purchased_date, a.warranty_start_date, a.warranty_exp_date, " ++
    "a.specs_id, m.id AS model_id, m.name AS model_name, m.asset_type, b.id AS brand_id, b.name AS brand_name, " ++
    "COALESCE(cs.status, 'available') AS status, cs.assigned_to_user AS assigned_to, a.created_by, a.created_at " ++
    "FROM assets a " ++ catalogueJoin ++ " " ++ currentStatusJoin ++ " WHERE a.id = $1 AND a.archived_at IS NULL"
  | .listAssets query => query.text
  | .recordStatus _ _ => "INSERT INTO asset_status (asset_id, status) VALUES ($1, $2) RETURNING " ++ entryColumns
  | .isAssigned _ =>
    "SELECT EXISTS ( SELECT 1 FROM asset_status " ++
    "WHERE asset_id = $1 AND status = 'assigned' AND archived_at IS NULL )"
  | .insertAssignment _ _ =>
    "INSERT INTO asset_status (asset_id, status, assigned_to_user) VALUES ($1, 'assigned', $2) RETURNING " ++
    entryColumns
  | .findAssignment _ =>
    "SELECT id FROM asset_status WHERE asset_id = $1 AND status = 'assigned' AND archived_at IS NULL"
  | .archiveEntry _ => "UPDATE asset_status SET archived_at = now() WHERE id = $1 AND archived_at IS NULL"
  | .assetTimeline _ =>
    "SELECT s.id, s.status, s.assigned_to_user, u.name AS assigned_to_name, s.sent_to_service, s.created_at, " ++
    "s.archived_at FROM asset_status s LEFT JOIN users u ON u.id = s.assigned_to_user " ++
    "WHERE s.asset_id = $1 ORDER BY s.created_at ASC, s.id ASC"
  | .userTimeline _ =>
    "SELECT s.id, s.asset_id, a.serial_no, m.asset_type, b.name AS brand, m.name AS model, s.status, " ++
    "s.created_at AS assigned_at, s.archived_at AS returned_at FROM asset_status s " ++
    "JOIN assets a ON a.id = s.asset_id " ++ catalogueJoin ++
    " WHERE s.assigned_to_user = $1 ORDER BY s.created_at ASC, s.id ASC"
  | .countAssignments _ =>
    "SELECT COUNT(*) FROM asset_status WHERE assigned_to_user = $1 AND status = 'assigned' AND archived_at IS NULL"
  | .insertUser _ =>
    "INSERT INTO users (name, email, phone, user_type) VALUES ($1, $2, $3, $4) RETURNING " ++ userColumns
  | .addRole _ _ => "INSERT INTO user_roles (user_id, role) VALUES ($1, $2) ON CONFLICT DO NOTHING"
  | .findUser _ => "SELECT " ++ userColumns ++ " FROM users WHERE id = $1 AND archived_at IS NULL"
  | .findUserByEmail _ =>
    "SELECT " ++ userColumns ++ " FROM users WHERE lower(email) = lower($1) AND archived_at IS NULL"
  | .rolesOf _ => "SELECT role FROM user_roles WHERE user_id = $1 ORDER BY role"
  | .lockUser _ exclusive =>
    "SELECT id FROM users WHERE id = $1 AND archived_at IS NULL " ++ if exclusive then "FOR UPDATE" else "FOR SHARE"
  | .updateUser _ _ _ =>
    "UPDATE users SET name = COALESCE($2, name), email = COALESCE($3, email), phone = COALESCE($4, phone), " ++
    "user_type = COALESCE($5, user_type), updated_by = $6, updated_at = now() " ++
    "WHERE id = $1 AND archived_at IS NULL RETURNING " ++ userColumns
  | .archiveUser _ _ =>
    "UPDATE users SET archived_at = now(), updated_by = $2, updated_at = now() WHERE id = $1 AND archived_at IS NULL"
  | .listUsers query => query.text
  | .heldAssets _ =>
    "SELECT a.id AS asset_id, a.serial_no, m.asset_type, b.name AS brand, m.name AS model, " ++
    "s.created_at AS assigned_at FROM asset_status s JOIN assets a ON a.id = s.asset_id " ++ catalogueJoin ++
    " WHERE s.assigned_to_user = $1 AND s.status = 'assigned' AND s.archived_at IS NULL ORDER BY s.created_at DESC"

def ofParam : Query.Param → Value
  | .text s => .text s
  | .texts values => .texts values
  | .number n => .integer n.toInt
  | .uuid u => .uuid u

/-- The arguments of a statement in the order of its placeholders. -/
def args : Statement → List Value
  | .ping => []
  | .findBrand name => [.text name]
  | .insertBrand name => [.text name]
  | .findModel name brandId assetType => [.text name, .uuid brandId, .ofLabel assetType]
  | .insertModel name brandId assetType => [.text name, .uuid brandId, .ofLabel assetType]
  | .findAttributes _ id => [.uuid id]
  | .insertAttributes a => a.args
  | .updateAttributes p id => p.assignments.map (·.2) ++ [.uuid id]
  | .insertAsset a =>
    [.uuid a.modelId, .uuid a.specsId, .text a.serialNo, .ofLabel a.ownedBy, .date a.purchasedDate,
     .ofOption .date a.warrantyStart, .ofOption .date a.warrantyEnd, .uuid a.createdBy]
  | .updateAsset id p updatedBy =>
    [.uuid id, .ofOption .text p.serialNo, .ofOption .ofLabel p.ownedBy, .ofOption .date p.purchasedDate,
     .ofOption .date p.warrantyStart, .ofOption .date p.warrantyEnd, .uuid updatedBy]
  | .lockAsset id => [.uuid id]
  | .archiveAsset id archivedBy => [.uuid id, .uuid archivedBy]
  | .assetExists id => [.uuid id]
  | .findAsset id => [.uuid id]
  | .listAssets query => query.params.map ofParam
  | .recordStatus assetId status => [.uuid assetId, .ofLabel status]
  | .isAssigned assetId => [.uuid assetId]
  | .insertAssignment assetId userId => [.uuid assetId, .uuid userId]
  | .findAssignment assetId => [.uuid assetId]
  | .archiveEntry id => [.uuid id]
  | .assetTimeline assetId => [.uuid assetId]
  | .userTimeline userId => [.uuid userId]
  | .countAssignments userId => [.uuid userId]
  | .insertUser u => [.text u.name, .text u.email, .ofOption .text u.phone, .ofLabel u.userType]
  | .addRole userId role => [.uuid userId, .ofLabel role]
  | .findUser id => [.uuid id]
  | .findUserByEmail email => [.text email]
  | .rolesOf userId => [.uuid userId]
  | .lockUser id _ => [.uuid id]
  | .updateUser id p updatedBy =>
    [.uuid id, .ofOption .text p.name, .ofOption .text p.email, .ofOption .text p.phone,
     .ofOption .ofLabel p.userType, .uuid updatedBy]
  | .archiveUser id archivedBy => [.uuid id, .uuid archivedBy]
  | .listUsers query => query.params.map ofParam
  | .heldAssets userId => [.uuid userId]

end Statement

end AssetRegistry.Store
