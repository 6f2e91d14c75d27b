import AssetRegistry.Proofs.DisplayNames
import AssetRegistry.Proofs.Objections
import AssetRegistry.Proofs.Protocol
import AssetRegistry.Proofs.Repertoire
import AssetRegistry.Proofs.Targets

namespace AssetRegistry.Store

namespace Command

/-- The word that an insertion gives to a column. -/
def valueOf? (column : String) : Command → Option Word
  | insert _ columns values => ((columns.zip values).find? fun pair => pair.1 = column.toList).map (·.2)
  | update _ _ _ | select _ _ _ | other => none

end Command

namespace Statement

/-- A row of the ledger gets the status, be it an argument or a word of the text. -/
def Records (q : Statement) (status : AssetStatus) : Prop :=
  q.given ["status"] = [.ofLabel status] ∨ q.command.valueOf? "status" = some ("'" ++ label status ++ "'").toList

theorem given_insertBrand (name : String) : (insertBrand name).given ["name"] = [.text name] := by
  rw [given_of_fills rfl rfl]
  simp [args]

theorem given_insertModel (name : String) (brandId : Uuid) (assetType : AssetType) :
    (insertModel name brandId assetType).given ["name"] = [.text name] := by
  rw [given_of_fills rfl rfl]
  simp [args]

theorem given_insertUser (user : NewUser) :
    (insertUser user).given ["name"] = [.text user.name] ∧ (insertUser user).given ["email"] = [.text user.email] ∧
      (insertUser user).given ["phone"] = [.ofOption .text user.phone] := by
  simp only [given_of_fills (q := insertUser user) rfl rfl]
  simp [args]

theorem given_updateUser (id : Uuid) (patch : UserPatch) (updatedBy : Uuid) :
    (updateUser id patch updatedBy).given ["name"] = [.ofOption .text patch.name] ∧
      (updateUser id patch updatedBy).given ["email"] = [.ofOption .text patch.email] ∧
      (updateUser id patch updatedBy).given ["phone"] = [.ofOption .text patch.phone] := by
  simp only [given_of_fills (q := updateUser id patch updatedBy) rfl rfl]
  simp [args]

theorem given_archiveUser (id archivedBy : Uuid) :
    (archiveUser id archivedBy).given ["name", "email", "phone"] = [] := by
  rw [given_of_fills rfl rfl]
  simp

theorem given_insertAsset (asset : NewAsset) :
    (insertAsset asset).given ["serial_no"] = [.text asset.serialNo] ∧
      (insertAsset asset).given ["purchased_date"] = [.date asset.purchasedDate] ∧
      (insertAsset asset).given ["warranty_start_date"] = [.ofOption .date asset.warrantyStart] ∧
      (insertAsset asset).given ["warranty_exp_date"] = [.ofOption .date asset.warrantyEnd] := by
  simp only [given_of_fills (q := insertAsset asset) rfl rfl]
  simp [args]

theorem given_updateAsset (id : Uuid) (patch : AssetPatch) (updatedBy : Uuid) :
    (updateAsset id patch updatedBy).given ["serial_no"] = [.ofOption .text patch.serialNo] ∧
      (updateAsset id patch updatedBy).given ["warranty_start_date"] = [.ofOption .date patch.warrantyStart] ∧
      (updateAsset id patch updatedBy).given ["warranty_exp_date"] = [.ofOption .date patch.warrantyEnd] := by
  simp only [given_of_fills (q := updateAsset id patch updatedBy) rfl rfl]
  simp [args]

theorem given_archiveAsset (id archivedBy : Uuid) :
    (archiveAsset id archivedBy).given ["serial_no", "warranty_start_date", "warranty_exp_date"] = [] := by
  rw [given_of_fills rfl rfl]
  simp

/-- The status is an argument, and no user is. -/
theorem given_recordStatus (assetId : Uuid) (status : AssetStatus) :
    (recordStatus assetId status).given ["status"] = [.ofLabel status] ∧
      (recordStatus assetId status).command.valueOf? "status" = some "$2".toList ∧
      (recordStatus assetId status).given ["assigned_to_user"] = [] := by
  simp only [given_of_fills (q := recordStatus assetId status) rfl rfl]
  refine ⟨by simp [args], ?_, by simp⟩
  exact reads_of_spelled (fun c => c.valueOf? "status" = some "$2".toList)
    (by unfold text entryColumns; exact spelled_append String.toList_ofList String.toList_ofList) (by decide +kernel)

/-- The status is a word of the text, and the user is an argument. -/
theorem given_insertAssignment (assetId userId : Uuid) :
    (insertAssignment assetId userId).given ["assigned_to_user"] = [.uuid userId] := by
  rw [given_of_fills rfl rfl]
  simp [args]

end Statement
end AssetRegistry.Store

namespace AssetRegistry
open Store Service Text

theorem ok_of_optional {ε α β : Type} {given : Option α} {check : α → Except ε β} {found : Option β} {b : β}
    (checked : given.mapM check = .ok found) (member : found = some b) : ∃ a ∈ given, check a = .ok b := by
  cases given with
  | none =>
    obtain rfl := Except.ok.inj checked
    cases member
  | some a =>
    have passes : (check a >>= fun b => pure (some b)) = .ok found := checked
    obtain ⟨b', checks, found⟩ := ok_of_bind passes
    obtain rfl := Option.some.inj ((Except.ok.inj found).trans member)
    exact ⟨a, rfl, checks⟩

namespace Users

theorem tenDigits_of_normalizePhone {given found : Option String} (normalized : normalizePhone given = .ok found) :
    ∀ phone ∈ found, TenDigits phone := by
  rintro phone ⟨⟩
  unfold normalizePhone at normalized
  split at normalized
  · cases normalized
  · dsimp only at normalized
    split at normalized
    · cases normalized
    · split at normalized
      next digits =>
        obtain rfl := Option.some.inj (Except.ok.inj normalized)
        exact (isPhone_iff _).1 digits
      · cases normalized

/-- What a new user is written with. -/
theorem normal_of_checkCreate {desk : Desk} {actor : Actor} {req : CreateUser} {user : NewUser}
    (checked : checkCreate desk actor req = .ok user) :
    Tidy user.name ∧ desk.policy.validate user.email = .ok user.email ∧ ∀ phone ∈ user.phone, TenDigits phone := by
  unfold checkCreate at checked
  cases bar : actor.role.creationBar? req.role with
  | some reason => rw [bar] at checked; cases checked
  | none =>
    rw [bar] at checked
    obtain ⟨_, named, checked⟩ := ok_of_bind checked
    obtain ⟨email, validated, checked⟩ := ok_of_bind checked
    obtain ⟨phone, normalized, checked⟩ := ok_of_bind checked
    obtain rfl := Except.ok.inj checked
    have nonempty : trim req.name ≠ "" := (trimmed_ne_iff _).1 (Users.ok_of_require named)
    exact ⟨tidy_trim nonempty, (EmailPolicy.validate_fixed (ok_of_mapError validated)).2,
      tenDigits_of_normalizePhone normalized⟩

/-- What a change of a user is written with. -/
theorem normal_of_checkUpdate {desk : Desk} {patch checked : UserPatch} (checks : checkUpdate desk patch = .ok checked) :
    (∀ name ∈ checked.name, Tidy name) ∧
      (∀ email ∈ checked.email, desk.policy.validate email = .ok email) ∧
      ∀ phone ∈ checked.phone, TenDigits phone := by
  unfold checkUpdate at checks
  obtain ⟨_, named, checks⟩ := ok_of_bind checks
  obtain ⟨address, validated, checks⟩ := ok_of_bind checks
  obtain ⟨phone, normalized, checks⟩ := ok_of_bind checks
  obtain rfl := Except.ok.inj checks
  refine ⟨fun name given => ?_, fun email given => ?_, tenDigits_of_normalizePhone normalized⟩
  · obtain ⟨raw, written, rfl⟩ := Option.map_eq_some_iff.1 given
    have nonempty := Users.ok_of_require named
    rw [written] at nonempty
    exact tidy_trim ((trimmed_ne_iff raw).1 nonempty)
  · obtain ⟨raw, -, validates⟩ := ok_of_optional validated given
    exact (EmailPolicy.validate_fixed (ok_of_mapError validates)).2

end Users

namespace Assets

theorem inOrder_of_checkWarranty {start finish : Option Date} {u : Unit} (checked : checkWarranty start finish = .ok u) :
    InOrder start finish := (warrantyOrdered_iff start finish).1 (Users.ok_of_require checked)

/-- What a new asset is written with. -/
theorem normal_of_checkCreate {req : CreateAsset} {r : Registration} (checked : checkCreate req = .ok r) :
    Tidy r.serialNo ∧ Tidy r.brandName ∧ Tidy r.modelName ∧ InOrder req.warrantyStart req.warrantyEnd := by
  unfold checkCreate at checked
  obtain ⟨_, numbered, checked⟩ := ok_of_bind checked
  cases date : req.purchasedDate with
  | none =>
    rw [date] at checked
    cases checked
  | some purchased =>
    rw [date] at checked
    obtain ⟨_, named, checked⟩ := ok_of_bind checked
    obtain ⟨_, ordered, checked⟩ := ok_of_bind checked
    obtain ⟨status, -, checked⟩ := ok_of_bind checked
    obtain ⟨assetType, -, checked⟩ := ok_of_bind checked
    obtain rfl := Except.ok.inj checked
    obtain ⟨brand, model⟩ := (Bool.and_eq_true _ _).mp (Users.ok_of_require named)
    exact ⟨tidy_trim ((trimmed_ne_iff _).1 (Users.ok_of_require numbered)), tidy_trim ((trimmed_ne_iff _).1 brand),
      tidy_trim ((trimmed_ne_iff _).1 model), inOrder_of_checkWarranty ordered⟩

/-- What a change of an asset is written with. -/
theorem normal_of_checkUpdate {existing : Asset} {fields checked : AssetPatch}
    (checks : checkUpdate existing fields = .ok checked) :
    (∀ serialNo ∈ checked.serialNo, Tidy serialNo) ∧
      InOrder (checked.warrantyStart <|> existing.warrantyStart) (checked.warrantyEnd <|> existing.warrantyEnd) := by
  unfold checkUpdate at checks
  obtain ⟨_, numbered, checks⟩ := ok_of_bind checks
  obtain ⟨_, ordered, checks⟩ := ok_of_bind checks
  obtain rfl := Except.ok.inj checks
  refine ⟨fun serialNo given => ?_, inOrder_of_checkWarranty ordered⟩
  obtain ⟨raw, written, rfl⟩ := Option.map_eq_some_iff.1 given
  have nonempty := Users.ok_of_require numbered
  dsimp only at nonempty
  rw [written] at nonempty
  exact tidy_trim ((trimmed_ne_iff raw).1 nonempty)

end Assets

namespace Service

/-- The addresses that a call lets in, just as they are. -/
def Call.LetsIn : Call → String → Prop
  | .mutation (.createUser desk _ _), email | .mutation (.updateUser desk _ _ _), email | .login desk _, email =>
    desk.policy.validate email = .ok email
  | _, _ => False

namespace Call.MaySend
variable {past : List Event} {call : Call} {q : Statement}

theorem listed (may : call.MaySend past q) : q.Listed := by
  cases may with
  | listAssets renders =>
    rintro _ ⟨⟩
    exact head_query head_assetListBase rfl (by rw [renders]; rfl)
  | listUsers renders =>
    rintro _ ⟨⟩
    exact head_query head_userListBase rfl (by rw [renders]; rfl)
  | findSummary renders =>
    rintro _ ⟨⟩
    exact head_query head_userListBase rfl (by rw [renders]; rfl)
  | _ => rintro _ ⟨⟩

/-- A user who is inserted has a tidy name, an address that is let in, and a phone number of ten digits, if any. -/
theorem newUser (may : call.MaySend past q) (writes : q.write? = some (.insertion .users)) :
    ∃ user, q = .insertUser user ∧ Tidy user.name ∧ call.LetsIn user.email ∧ ∀ phone ∈ user.phone, TenDigits phone := by
  cases may with
  | insertUser checked => exact ⟨_, rfl, Users.normal_of_checkCreate checked⟩
  | insertNewcomer validated =>
    exact ⟨_, rfl, EmailPolicy.tidy_displayName validated, (EmailPolicy.validate_fixed validated).2, nofun⟩
  | _ => cases writes

/-- A user who is updated gets no other texts either, and one who is archived gets none. -/
theorem profile (may : call.MaySend past q) (writes : q.write? = some (.change .users)) :
    (∃ id patch updatedBy, q = .updateUser id patch updatedBy ∧ (∀ name ∈ patch.name, Tidy name) ∧
      (∀ email ∈ patch.email, call.LetsIn email) ∧ ∀ phone ∈ patch.phone, TenDigits phone) ∨
    ∃ id archivedBy, q = .archiveUser id archivedBy := by
  cases may with
  | updateUser checked => exact Or.inl ⟨_, _, _, rfl, Users.normal_of_checkUpdate checked⟩
  | archiveUser => exact Or.inr ⟨_, _, rfl⟩
  | _ => cases writes

theorem brand (may : call.MaySend past q) (writes : q.write? = some (.insertion .brands)) :
    ∃ name, q = .insertBrand name ∧ Tidy name := by
  cases may with
  | insertBrand checked => exact ⟨_, rfl, (Assets.normal_of_checkCreate checked).2.1⟩
  | _ => cases writes

theorem model (may : call.MaySend past q) (writes : q.write? = some (.insertion .models)) :
    ∃ name brandId assetType, q = .insertModel name brandId assetType ∧ Tidy name := by
  cases may with
  | insertModel brandId checked => exact ⟨_, _, _, rfl, (Assets.normal_of_checkCreate checked).2.2.1⟩
  | _ => cases writes

/-- An asset that is inserted has a tidy serial number and a warranty in order. -/
theorem asset (may : call.MaySend past q) (writes : q.write? = some (.insertion .assets)) :
    ∃ actor req asset, call = .mutation (.createAsset actor req) ∧ q = .insertAsset asset ∧ Tidy asset.serialNo ∧
      InOrder asset.warrantyStart asset.warrantyEnd := by
  cases may with
  | insertAsset modelId specsId checked =>
    obtain ⟨serialNo, -, -, ordered⟩ := Assets.normal_of_checkCreate checked
    exact ⟨_, _, _, rfl, rfl, serialNo, ordered⟩
  | _ => cases writes

/-- An asset that is updated gets a tidy serial number and dates that are in order with those that it was told to have.
-/
theorem patched (may : call.MaySend past q) (writes : q.write? = some (.change .assets)) :
    (∃ id patch updatedBy existing, q = .updateAsset id patch updatedBy ∧
      (∀ serialNo ∈ patch.serialNo, Tidy serialNo) ∧ Tells id existing past ∧
      InOrder (patch.warrantyStart <|> existing.warrantyStart) (patch.warrantyEnd <|> existing.warrantyEnd)) ∨
    ∃ id archivedBy, q = .archiveAsset id archivedBy := by
  cases may with
  | updateAsset tells checked =>
    obtain ⟨serialNo, ordered⟩ := Assets.normal_of_checkUpdate checked
    exact Or.inl ⟨_, _, _, _, rfl, serialNo, tells, ordered⟩
  | archiveAsset => exact Or.inr ⟨_, _, rfl⟩
  | _ => cases writes

/-- A ledger row either tells a status that is no assignment, or assigns. -/
theorem entry (may : call.MaySend past q) (writes : q.write? = some (.insertion .ledger)) :
    (∃ assetId status, q = .recordStatus assetId status ∧ status ≠ .assigned) ∨
    ∃ req : AssignAsset, call = .mutation (.assignAsset req) ∧ q = .insertAssignment req.assetId req.userId := by
  cases may with
  | recordStatus assetId checked =>
    exact Or.inl ⟨_, _, rfl, Assets.initialStatus_ne_assigned (Assets.checkCreate_status checked)⟩
  | insertAssignment => exact Or.inr ⟨_, rfl, rfl⟩
  | _ => cases writes

end Call.MaySend

/-- What is written has its normal form. The arguments are those that the text of the statement gives to the columns. -/
structure Normalized (letsIn : String → Prop) (past : List Event) (q : Statement) : Prop where
  newUser : q.command.InsertsInto "users" → ∃ (name email : String) (phone : Option String),
    q.given ["name"] = [.text name] ∧ q.given ["email"] = [.text email] ∧ q.given ["phone"] = [.ofOption .text phone] ∧
      Tidy name ∧ letsIn email ∧ ∀ given ∈ phone, TenDigits given
  profile : q.command.Updates "users" → q.given ["name", "email", "phone"] = [] ∨ ∃ name email phone : Option String,
    q.given ["name"] = [.ofOption .text name] ∧ q.given ["email"] = [.ofOption .text email] ∧
      q.given ["phone"] = [.ofOption .text phone] ∧ (∀ given ∈ name, Tidy given) ∧ (∀ given ∈ email, letsIn given) ∧
      ∀ given ∈ phone, TenDigits given
  brand : q.command.InsertsInto "asset_brands" → ∃ name, q.given ["name"] = [.text name] ∧ Tidy name
  model : q.command.InsertsInto "asset_models" → ∃ name, q.given ["name"] = [.text name] ∧ Tidy name
  newAsset : q.command.InsertsInto "assets" → ∃ serialNo purchased start finish,
    q.given ["serial_no"] = [.text serialNo] ∧ q.given ["purchased_date"] = [.date purchased] ∧
      q.given ["warranty_start_date"] = [.ofOption .date start] ∧
      q.given ["warranty_exp_date"] = [.ofOption .date finish] ∧ Tidy serialNo ∧ InOrder start finish
  patch : q.command.Updates "assets" → q.given ["serial_no", "warranty_start_date", "warranty_exp_date"] = [] ∨
    ∃ id existing, ∃ serialNo : Option String, ∃ start finish : Option Date,
      q.args.head? = some (.uuid id) ∧ q.given ["serial_no"] = [.ofOption .text serialNo] ∧
        q.given ["warranty_start_date"] = [.ofOption .date start] ∧
        q.given ["warranty_exp_date"] = [.ofOption .date finish] ∧ (∀ given ∈ serialNo, Tidy given) ∧
        Tells id existing past ∧ InOrder (start <|> existing.warrantyStart) (finish <|> existing.warrantyEnd)
  assigned : q.command.InsertsInto "asset_status" → q.Records .assigned →
    ∃ userId, q.given ["assigned_to_user"] = [.uuid userId]
  initial : q.command.InsertsInto "asset_status" →
    (∃ registering reply, (.statement registering, reply) ∈ past ∧ registering.command.InsertsInto "assets") →
    (q.Records .available ∨ q.Records .inService) ∧ q.given ["assigned_to_user"] = []

namespace Call.MaySend
variable {past : List Event} {call : Call} {q : Statement}

/-- A row that assigns names a user. -/
theorem assigned (may : call.MaySend past q) (inserts : q.command.InsertsInto "asset_status")
    (records : q.Records .assigned) : ∃ userId, q.given ["assigned_to_user"] = [.uuid userId] := by
  obtain ⟨assetId, status, rfl, unassigned⟩ | ⟨req, -, rfl⟩ :=
    may.entry (Statement.write_of_does (w := .insertion .ledger) may.listed inserts)
  · obtain ⟨told, word, -⟩ := Statement.given_recordStatus assetId status
    obtain assigned | assigned := records
    · rw [told] at assigned
      cases status <;> simp [Value.ofLabel, label] at assigned unassigned
    · have differs : some "$2".toList ≠ some ("'" ++ label AssetStatus.assigned ++ "'").toList := by decide +kernel
      rw [word] at assigned
      exact absurd assigned differs
  · exact ⟨req.userId, Statement.given_insertAssignment req.assetId req.userId⟩

/-- The first row of an asset tells that it is available or in service, and names nobody. -/
theorem initial (may : call.MaySend past q) (inserts : q.command.InsertsInto "asset_status") {actor : Actor}
    {req : CreateAsset} (registers : call = .mutation (.createAsset actor req)) :
    (q.Records .available ∨ q.Records .inService) ∧ q.given ["assigned_to_user"] = [] := by
  obtain ⟨assetId, status, rfl, unassigned⟩ | ⟨req, assigns, -⟩ :=
    may.entry (Statement.write_of_does (w := .insertion .ledger) may.listed inserts)
  · obtain ⟨told, -, nobody⟩ := Statement.given_recordStatus assetId status
    refine ⟨?_, nobody⟩
    cases status with
    | available => exact Or.inl (Or.inl told)
    | inService => exact Or.inr (Or.inl told)
    | assigned => exact absurd rfl unassigned
  · rw [assigns] at registers
    cases registers

end Call.MaySend

/-- Whatever the store answers, everything that a call writes has its normal form. -/
theorem writes_normalized (call : Call) (replies : Nat → Reply) (before after : List Event) (q : Statement)
    (reply : Reply) (occurs : (call.operation.run.against replies).1 = before ++ (.statement q, reply) :: after) :
    Normalized call.LetsIn before q := by
  have may : call.MaySend before q := call.obeys.ruled occurs
  have written {w : Write} (does : q.command.Does w) : q.write? = some w := Statement.write_of_does may.listed does
  constructor
  case newUser =>
    intro inserts
    obtain ⟨user, rfl, normal⟩ := may.newUser (written (w := .insertion .users) inserts)
    obtain ⟨name, email, phone⟩ := Statement.given_insertUser user
    exact ⟨_, _, _, name, email, phone, normal⟩
  case profile =>
    intro updates
    obtain ⟨id, patch, updatedBy, rfl, normal⟩ | ⟨id, archivedBy, rfl⟩ :=
      may.profile (written (w := .change .users) updates)
    · obtain ⟨name, email, phone⟩ := Statement.given_updateUser id patch updatedBy
      exact Or.inr ⟨_, _, _, name, email, phone, normal⟩
    · exact Or.inl (Statement.given_archiveUser id archivedBy)
  case brand =>
    intro inserts
    obtain ⟨name, rfl, tidy⟩ := may.brand (written (w := .insertion .brands) inserts)
    exact ⟨name, Statement.given_insertBrand name, tidy⟩
  case model =>
    intro inserts
    obtain ⟨name, brandId, assetType, rfl, tidy⟩ := may.model (written (w := .insertion .models) inserts)
    exact ⟨name, Statement.given_insertModel name brandId assetType, tidy⟩
  case newAsset =>
    intro inserts
    obtain ⟨actor, req, asset, -, rfl, normal⟩ := may.asset (written (w := .insertion .assets) inserts)
    obtain ⟨serialNo, purchased, start, finish⟩ := Statement.given_insertAsset asset
    exact ⟨_, _, _, _, serialNo, purchased, start, finish, normal⟩
  case patch =>
    intro updates
    obtain ⟨id, patch, updatedBy, existing, rfl, normal⟩ | ⟨id, archivedBy, rfl⟩ :=
      may.patched (written (w := .change .assets) updates)
    · obtain ⟨serialNo, start, finish⟩ := Statement.given_updateAsset id patch updatedBy
      exact Or.inr ⟨id, existing, _, _, _, rfl, serialNo, start, finish, normal⟩
    · exact Or.inl (Statement.given_archiveAsset id archivedBy)
  case assigned => exact may.assigned
  case initial =>
    intro inserts registered
    obtain ⟨registering, answer, earlier, insertsAsset⟩ := registered
    obtain ⟨start, rest, rfl⟩ := List.append_of_mem earlier
    -- Only a registration has inserted an asset.
    rw [List.append_assoc, List.cons_append] at occurs
    have mayRegister : call.MaySend start registering := call.obeys.ruled occurs
    obtain ⟨actor, req, asset, registers, -⟩ :=
      mayRegister.asset (Statement.write_of_does (w := .insertion .assets) mayRegister.listed insertsAsset)
    exact may.initial inserts registers

/-- A newcomer is inserted with the name and the address that were made of the request. -/
theorem newcomer_inserted : ((Call.login frontDesk raceLogin).operation.run.against newcomerReplies).1 =
    [(.statement (.findUserByEmail "ann@acme.com"), .rows []), (.begin, .affected 1)] ++
      (.statement (.insertUser (Users.newcomer "ann@acme.com")), raceReplies 4) ::
      [(.statement (.addRole (.ofNat 4) .employee), .affected 1), (.commit, .affected 1),
        (.statement (.rolesOf (.ofNat 4)), raceReplies 5)] := by
  rw [newcomer_events]
  simp only [List.cons_append, List.nil_append]

/-- A newcomer is written with a name made of the address. -/
theorem newcomer_normalized : Normalized (Call.login frontDesk raceLogin).LetsIn
    [(.statement (.findUserByEmail "ann@acme.com"), .rows []), (.begin, .affected 1)]
    (.insertUser (Users.newcomer "ann@acme.com")) :=
  writes_normalized (.login frontDesk raceLogin) newcomerReplies _ _ _ _ newcomer_inserted

end Service
end AssetRegistry
