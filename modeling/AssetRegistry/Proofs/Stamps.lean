import AssetRegistry.Proofs.Targets

namespace AssetRegistry.Store

/-- The columns that say who made a change. -/
def stampColumns : List String := ["created_by", "updated_by"]

/-- What a message says of who made a change is that this user did. -/
def StampedBy (userId : Uuid) (m : Message) : Prop := ∀ q, m = .statement q → ∀ v ∈ q.given stampColumns, v = .uuid userId

theorem stamp_isWord {column : String} (stamp : column ∈ stampColumns) :
    column.toList ≠ [] ∧ column.toList.head?.all Char.isLower := by
  revert column
  decide +kernel

/-- No table of attributes has a column that says who made a change. -/
theorem stamp_not_column (t : AssetType) {column : String} (stamp : column ∈ stampColumns) :
    column.toList ∉ ((Specs.columns t).map (·.name)).map String.toList := by
  revert column
  cases t <;> decide +kernel

theorem mem_changedPlaces {column : Word} {ws : List Word} {place : Word × Nat}
    (member : place ∈ changedPlaces column ws) : place.1 = column ∨ place.1 ∈ ws := by
  induction column, ws using changedPlaces.induct with
  | case1 column w rest ih =>
    rw [changedPlaces, if_pos rfl] at member
    rcases ih member with same | later
    · exact Or.inr (same ▸ List.mem_cons_self)
    · exact Or.inr (List.mem_cons_of_mem _ (List.mem_cons_of_mem _ later))
  | case2 column w next rest plain ih =>
    rw [changedPlaces, if_neg plain, List.mem_append] at member
    rcases member with here | later
    · obtain ⟨n, -, rfl⟩ := List.mem_map.1 here
      exact Or.inl rfl
    · exact (ih later).imp_right (List.mem_cons_of_mem _)
  | case3 column w =>
    obtain ⟨n, -, rfl⟩ := List.mem_map.1 member
    exact Or.inl rfl
  | case4 => simp [changedPlaces] at member

namespace Statement

/-- The user who a statement says makes the change. -/
def author? : Statement → Option Uuid
  | insertAsset asset => some asset.createdBy
  | updateAsset _ _ updatedBy | updateUser _ _ updatedBy => some updatedBy
  | archiveAsset _ archivedBy | archiveUser _ archivedBy => some archivedBy
  | _ => none

/-- The user who is given a role, and the role. -/
def grant? : Statement → Option (Uuid × Role)
  | addRole userId role => some (userId, role)
  | _ => none

theorem given_eq_nil {q : Statement} {columns : List String}
    (absent : ∀ place ∈ q.command.places, ∀ column ∈ columns, column.toList ≠ place.1) : q.given columns = [] := by
  unfold given Command.placesOf
  rw [List.filter_eq_nil_iff.2 fun place member => by simpa using absent place member]
  rfl

/-- Attributes are inserted without a word of who does it. -/
theorem given_insertAttributes (a : Attributes) : (insertAttributes a).given stampColumns = [] := by
  refine given_eq_nil fun place member column stamp => ?_
  rw [insertAttributes_command, Command.places, List.mem_filterMap] at member
  obtain ⟨pair, paired, read⟩ := member
  obtain ⟨n, -, rfl⟩ := Option.map_eq_some_iff.1 read
  exact fun same => stamp_not_column a.type stamp (same ▸ (List.of_mem_zip paired).1)

theorem given_updateAttributes (p : AttributesPatch) (id : Uuid) : (updateAttributes p id).given stampColumns = [] := by
  refine given_eq_nil fun place member column stamp same => ?_
  rw [updateAttributes_command, Command.places] at member
  rcases mem_changedPlaces member with none | among
  · rw [none] at same
    exact (stamp_isWord stamp).1 same
  · obtain ⟨pair, paired, isWord⟩ := List.mem_flatMap.1 among
    obtain ⟨isName, isSlot⟩ := List.of_mem_zip paired
    obtain ⟨i, -, numbered⟩ := List.mem_map.1 isSlot
    have lower := (stamp_isWord stamp).2
    rw [← same] at isWord
    simp only [List.mem_cons, List.not_mem_nil, or_false] at isWord
    rcases isWord with name | sign | slot
    · obtain ⟨c, known, named⟩ := Specs.Changes.mem_columns isName
      exact stamp_not_column p.type stamp (by rw [name, ← named]; simpa using ⟨c, known, rfl⟩)
    · rw [sign] at lower
      cases lower
    · rw [slot, ← numbered, toList_placeholder] at lower
      cases lower

-- Texts that write have been read out; of all others the first letter is enough.
/-- The text of a statement names its author, if it has one, and nobody else. -/
theorem given_stamps (q : Statement) (listed : q.Listed) :
    q.given stampColumns = q.author?.toList.map .uuid := by
  cases q with
  | insertAttributes a => exact given_insertAttributes a
  | updateAttributes p id => exact given_updateAttributes p id
  | insertBrand | insertModel | insertAsset | updateAsset | archiveAsset | recordStatus | insertAssignment | archiveEntry
  | insertUser | addRole | updateUser | archiveUser =>
    rw [given_of_fills rfl rfl]
    simp [stampColumns, args, author?]
  | _ => exact given_of_reading (head_text listed) _

end Statement

/-- A message of a caller who gives nobody a role. -/
def Authored (userId : Uuid) (m : Message) : Prop :=
  ∀ q, m = .statement q → q.Listed ∧ (∀ author ∈ q.author?, author = userId) ∧ q.grant? = none

variable {userId : Uuid}

/-- A statement whose author is the user, or that has none, is stamped by the user. -/
theorem stampedBy_of_listed {q : Statement} (listed : q.Listed) (author : ∀ author ∈ q.author?, author = userId) :
    StampedBy userId (.statement q) := by
  rintro _ ⟨⟩ v given
  rw [q.given_stamps listed] at given
  obtain ⟨author', isAuthor, rfl⟩ := List.mem_map.1 given
  rw [author author' (by simpa using isAuthor)]

/-- What is done for a user is stamped by that user. -/
theorem Authored.stampedBy {m : Message} (authored : Authored userId m) : StampedBy userId m := by
  rintro q rfl
  obtain ⟨listed, author, -⟩ := authored q rfl
  exact stampedBy_of_listed listed author q rfl

/-- A statement that names no author and gives no role may be sent on behalf of anyone. -/
theorem authored_of_listed {q : Statement} (listed : q.Listed) (anonymous : q.author? = none)
    (ungranting : q.grant? = none) : Authored userId (.statement q) := by
  rintro _ ⟨⟩
  exact ⟨listed, by simp [anonymous], ungranting⟩

/-- Statements that name no author. -/
theorem anonymous {q : Statement} (unlisted : q.query? = none) (anonymous : q.author? = none)
    (ungranting : q.grant? = none) : Authored userId (.statement q) :=
  authored_of_listed (by simp [Statement.Listed, unlisted]) anonymous ungranting

/-- Statements that name the caller as their author. -/
theorem authored {q : Statement} (unlisted : q.query? = none) (author : q.author? = some userId)
    (ungranting : q.grant? = none) : Authored userId (.statement q) := by
  rintro _ ⟨⟩
  exact ⟨by simp [Statement.Listed, unlisted], by simp [author], ungranting⟩

theorem authored_begin : Authored userId .begin := by rintro _ ⟨⟩

theorem authored_commit : Authored userId .commit := by rintro _ ⟨⟩

theorem authored_rollback : Authored userId .rollback := by rintro _ ⟨⟩

namespace Exchange

/-- Beginning and end of a transaction name nobody. -/
theorem authored_transaction {α : Type} {work : Service.Operation α} (sends : work.Sends (Authored userId)) :
    (transaction .ofStore work).Sends (Authored userId) :=
  sends.transaction authored_begin authored_commit authored_rollback

theorem Sends.stamped {ε α : Type} {x : Exchange ε α} (sends : x.Sends (Authored userId)) :
    x.Sends (StampedBy userId) := sends.mono fun _ => Authored.stampedBy

end Exchange
end AssetRegistry.Store

namespace AssetRegistry
open Store Service Exchange

/-- A brand or a model is found or inserted for nobody in particular. -/
theorem authored_findOrInsert {α : Type} {userId : Uuid} {find insert : Statement} (read : RowReader α)
    (missing : StoreError) (finds : Authored userId (.statement find)) (inserts : Authored userId (.statement insert)) :
    (findOrInsert find insert read missing).Sends (Authored userId) :=
  ensures_findOrInsert (fun _ _ => sends_single _ finds) (fun _ _ => sends_single _ inserts) trivial

namespace Assets

/-- All rows of a registration are made for the caller. -/
theorem authored_register (actor : Actor) (req : CreateAsset) (r : Registration) :
    (register actor req r).Sends (Authored actor.userId) := by
  refine (sends_stored (authored_findOrInsert _ _ (anonymous rfl rfl rfl) (anonymous rfl rfl rfl))).bind fun brand => ?_
  refine (sends_stored (authored_findOrInsert _ _ (anonymous rfl rfl rfl) (anonymous rfl rfl rfl))).bind fun model => ?_
  refine (Sends.mapError (sends_checked fun attributes _ => ?_) _).bind fun specsId => ?_
  · exact (sends_fetchOne (anonymous rfl rfl rfl) _).mapError _
  refine (sends_stored (sends_fetchOne (authored rfl rfl rfl) _)).bind fun assetId => ?_
  exact (sends_stored (sends_fetchOne (anonymous rfl rfl rfl) _)).bind fun _ => sends_pure assetId

theorem authored_find (userId id : Uuid) : (find id).Sends (Authored userId) := by
  refine (sends_stored (sends_fetchOptional (anonymous rfl rfl rfl) _)).bind fun found => ?_
  cases found with
  | some asset => exact sends_pure asset
  | none => exact sends_throw _

theorem authored_apply (userId : Uuid) (t : AssetType) (id : Uuid) (payload : Json) :
    (AttributesPatch.apply t id payload).Sends (Authored userId) := by
  refine sends_checked fun patch _ => sends_ite (sends_pure ()) ?_
  exact ((sends_execute (anonymous rfl rfl rfl)).mapError _).bind fun count => sends_ite (sends_throw _) (sends_pure ())

/-- What an update writes is written for the caller. -/
theorem authored_writeUpdate (actor : Actor) (id : Uuid) (existing : Asset) (fields : AssetPatch) (specs : Option Json) :
    (writeUpdate actor id existing fields specs).Sends (Authored actor.userId) := by
  refine (sends_stored ((sends_execute (authored rfl rfl rfl)).bind fun _ => sends_pure _)).bind fun written => ?_
  refine sends_ite (sends_throw _) ?_
  cases specs with
  | none => exact sends_pure ()
  | some payload => exact (authored_apply _ _ _ _).mapError _

theorem authored_lock (userId id : Uuid) : (stored (lock id)).Sends (Authored userId) :=
  sends_stored ((sends_fetchOptional (anonymous rfl rfl rfl) _).bind fun _ => sends_pure _)

theorem authored_isAvailable (userId id : Uuid) : (stored (Ledger.isAvailable id)).Sends (Authored userId) :=
  sends_stored ((sends_fetchOne (anonymous rfl rfl rfl) _).bind fun _ => sends_pure _)

theorem authored_handOut (userId : Uuid) (req : AssignAsset) : (handOut req).Sends (Authored userId) := by
  refine (authored_lock _ _).bind fun _ => sends_ite (sends_throw _) ?_
  refine (sends_stored (sends_fetchOptional (anonymous rfl rfl rfl) _)).bind fun _ => sends_ite (sends_throw _) ?_
  refine (authored_isAvailable _ _).bind fun _ => sends_ite (sends_throw _) ?_
  exact sends_stored (sends_fetchOne (anonymous rfl rfl rfl) _)

theorem authored_takeBack (userId id : Uuid) : (takeBack id).Sends (Authored userId) := by
  refine (authored_lock _ _).bind fun _ => sends_ite (sends_throw _) ?_
  refine (sends_stored (sends_fetchOptional (anonymous rfl rfl rfl) _)).bind fun found => ?_
  cases found with
  | none => exact sends_throw _
  | some entry =>
    exact (sends_stored ((sends_execute (anonymous rfl rfl rfl)).bind fun _ => sends_pure _)).bind fun _ => sends_pure ()

theorem authored_withdraw (actor : Actor) (id : Uuid) : (withdraw actor id).Sends (Authored actor.userId) := by
  refine (authored_lock _ _).bind fun _ => sends_ite (sends_throw _) ?_
  refine (authored_isAvailable _ _).bind fun _ => sends_ite (sends_throw _) ?_
  exact (sends_stored ((sends_execute (authored rfl rfl rfl)).bind fun _ => sends_pure _)).bind fun _ => sends_pure ()

theorem authored_create (actor : Actor) (req : CreateAsset) : (create actor req).Sends (Authored actor.userId) :=
  sends_checked fun r _ => authored_transaction (authored_register actor req r)

theorem authored_update (actor : Actor) (id : Uuid) (req : UpdateAsset) :
    (update actor id req).Sends (Authored actor.userId) :=
  (authored_find actor.userId id).bind fun existing => sends_checked fun fields _ =>
    authored_transaction (authored_writeUpdate actor id existing fields req.payload?)

theorem authored_assign (userId : Uuid) (req : AssignAsset) : (assign req).Sends (Authored userId) :=
  authored_transaction (authored_handOut userId req)

theorem authored_retrieve (userId id : Uuid) : (retrieve id).Sends (Authored userId) :=
  authored_transaction (authored_takeBack userId id)

theorem authored_archive (actor : Actor) (id : Uuid) : (archive actor id).Sends (Authored actor.userId) :=
  authored_transaction (authored_withdraw actor id)

theorem authored_list (userId : Uuid) (filter : AssetFilter) (page : Query.Page) :
    (list filter page).Sends (Authored userId) := by
  refine sends_stored (sends_checked fun rendered renders => sends_fetchAll (authored_of_listed ?_ rfl rfl) _)
  rintro _ ⟨⟩
  exact head_query head_assetListBase rfl renders

theorem authored_detail (userId id : Uuid) : (detail id).Sends (Authored userId) := by
  refine (authored_find userId id).bind fun asset => ?_
  refine Sends.bind (Sends.mapError (Sends.mapError ?_ _) _) fun _ => sends_pure _
  refine (sends_fetchOptional (anonymous rfl rfl rfl) _).bind fun found => ?_
  cases found with
  | none => exact sends_throw _
  | some attributes => exact sends_pure attributes

theorem authored_timeline (userId id : Uuid) : (timeline id).Sends (Authored userId) := by
  refine (sends_stored (sends_fetchOne (anonymous rfl rfl rfl) _)).bind fun _ => sends_ite (sends_throw _) ?_
  exact sends_stored (sends_fetchAll (anonymous rfl rfl rfl) _)

end Assets

namespace Users

theorem authored_list (userId : Uuid) (filter : UserFilter) (page : Query.Page) :
    (list filter page).Sends (Authored userId) := by
  refine sends_stored (sends_checked fun rendered renders => sends_fetchAll (authored_of_listed ?_ rfl rfl) _)
  rintro _ ⟨⟩
  exact head_query head_userListBase rfl renders

theorem authored_details (userId id : Uuid) : (details id).Sends (Authored userId) := by
  refine Sends.bind (sends_stored (sends_checked fun rendered renders => ?_)) fun found => ?_
  · refine sends_fetchOptional (authored_of_listed ?_ rfl rfl) _
    rintro _ ⟨⟩
    exact head_query head_userListBase rfl renders
  · cases found with
    | none => exact sends_throw _
    | some user => exact (sends_stored (sends_fetchAll (anonymous rfl rfl rfl) _)).bind fun _ => sends_pure _

theorem authored_timeline (userId id : Uuid) : (timeline id).Sends (Authored userId) :=
  sends_stored (sends_fetchAll (anonymous rfl rfl rfl) _)

/-- A user is inserted and given a role without a word of who does it. -/
theorem stamped_enrol (userId : Uuid) (user : NewUser) : (enrol user).Sends (StampedBy userId) := by
  have unstamped {q : Statement} (unlisted : q.query? = none) (anonymous : q.author? = none) :
      StampedBy userId (.statement q) :=
    stampedBy_of_listed (by simp [Statement.Listed, unlisted]) (by simp [anonymous])
  refine (sends_stored (sends_fetchOptional (unstamped rfl rfl) _)).bind fun _ => sends_ite (sends_throw _) ?_
  refine sends_stored ((sends_fetchOne (unstamped rfl rfl) _).bind fun created => ?_)
  exact ((sends_execute (unstamped rfl rfl)).bind fun _ => sends_pure ()).bind fun _ => sends_pure created

theorem authored_change (actor : Actor) (id : Uuid) (patch : UserPatch) :
    (change actor id patch).Sends (Authored actor.userId) := by
  refine (sends_stored (sends_fetchOptional (authored rfl rfl rfl) _)).bind fun written => ?_
  cases written with
  | none => exact sends_throw _
  | some user => exact sends_pure user

theorem authored_dismiss (actor : Actor) (id : Uuid) : (dismiss actor id).Sends (Authored actor.userId) := by
  refine (sends_stored ((sends_fetchOptional (anonymous rfl rfl rfl) _).bind fun _ => sends_pure _)).bind fun _ => ?_
  refine sends_ite (sends_throw _) ((sends_stored (sends_fetchOne (anonymous rfl rfl rfl) _)).bind fun held => ?_)
  refine sends_ite (sends_throw _) ?_
  exact (sends_stored ((sends_execute (authored rfl rfl rfl)).bind fun _ => sends_pure _)).bind fun _ => sends_pure ()

theorem authored_update (desk : Desk) (actor : Actor) (id : Uuid) (patch : UserPatch) :
    (update desk actor id patch).Sends (Authored actor.userId) :=
  sends_checked fun checked _ => authored_transaction (authored_change actor id checked)

theorem authored_delete (actor : Actor) (id : Uuid) : (delete actor id).Sends (Authored actor.userId) :=
  sends_checked fun _ _ => authored_transaction (authored_dismiss actor id)

end Users
end AssetRegistry
