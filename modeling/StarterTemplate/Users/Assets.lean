import StarterTemplate.FileStorage.Storage
import StarterTemplate.Outbox.Dispatch
import StarterTemplate.Users.Effects
import StarterTemplate.Users.UseCases

/-!
# The files of a user

`FileStorageUserAssetsAdapter.delete_user_assets`, which removes the objects under the
directory of a user, and `ExportUserData`, which writes what is stored about a user to an
object of its own, under another directory.
-/

namespace StarterTemplate.Users

open Library Database Authentication Prog FileStorage

/-! ## Cleanup -/

/-- `user_prefix`. -/
def userPrefix (userId : Uuid) : String := "users/" ++ userId.str ++ "/"

/-- `str(AssetsCleanupBackendError(reason))`. -/
def cleanupError (reason : String) : String := "User-asset cleanup backend failure: " ++ reason

/-- The loop of `delete_user_assets`, which the first failure leaves. -/
def deleteKeys (faults : Faults) : List String → List Blob → Outbox.EffectResult × List Blob
  | [], blobs => (.ok, blobs)
  | key :: keys, blobs =>
    match faults.delete key with
    | some reason => (.err (cleanupError (backendError reason)), blobs)
    | none => deleteKeys faults keys (delete blobs key)

/-- `delete_user_assets`. -/
def deleteUserAssets (faults : Faults) (userId : Uuid) (blobs : List Blob) :
    Outbox.EffectResult × List Blob :=
  match faults.list with
  | some reason => (.err (cleanupError (backendError reason)), blobs)
  | none => deleteKeys faults (list blobs (userPrefix userId)) blobs

/-- The loop removes objects with the keys only, and all of them when it succeeds. -/
theorem deleteKeys_spec (faults : Faults) (keys : List String) (blobs : List Blob) :
    (∀ blob ∈ (deleteKeys faults keys blobs).2, blob ∈ blobs) ∧
      ((deleteKeys faults keys blobs).1 = .ok →
        ∀ blob ∈ (deleteKeys faults keys blobs).2, blob.key ∉ keys) := by
  induction keys generalizing blobs with
  | nil => simp [deleteKeys]
  | cons key keys ih =>
    rw [deleteKeys]
    cases faults.delete key with
    | some reason => simp
    | none =>
      rcases ih (delete blobs key) with ⟨remains, removes⟩
      constructor
      · intro blob isBlob
        exact (mem_delete.mp (remains blob isBlob)).1
      intro isOk blob isBlob among
      rcases List.mem_cons.mp among with isKey | later
      · exact (mem_delete.mp (remains blob isBlob)).2 isKey
      · exact removes isOk blob isBlob later

/-- The cleanup adds nothing, and leaves no object of the user when it succeeds. -/
theorem deleteUserAssets_spec (faults : Faults) (userId : Uuid) (blobs : List Blob) :
    (∀ blob ∈ (deleteUserAssets faults userId blobs).2, blob ∈ blobs) ∧
      ((deleteUserAssets faults userId blobs).1 = .ok →
        ∀ blob ∈ (deleteUserAssets faults userId blobs).2,
          startsWith (userPrefix userId) blob.key = false) := by
  rw [deleteUserAssets]
  cases faults.list with
  | some reason => simp
  | none =>
    rcases deleteKeys_spec faults (list blobs (userPrefix userId)) blobs with ⟨remains, removes⟩
    refine ⟨remains, ?_⟩
    intro isOk blob isBlob
    by_contra starts
    apply removes isOk blob isBlob
    exact mem_list.mpr ⟨⟨blob, remains blob isBlob, rfl⟩, by simpa using starts⟩

/-! ## Export -/

/-- What one run draws from its surroundings: the text of moments, the `created_at` columns
by the id of their row, the clock readings, the id of the object, and the storage. -/
structure ExportInput where
  isoformat : Instant → String
  createdAt : Uuid → Instant
  exportedAt : Instant
  returnedAt : Instant
  blobId : Uuid
  faults : Faults

/-- `ExportContract`. -/
structure ExportContract where
  downloadUrl : String
  expiresAt : Instant

/-- The errors of `ExportUserData.execute`. -/
inductive ExportError where
  | userNotFound
  | storageWriteFailed (reason : String)
  | signedUrlFailed (reason : String)

/-- The order of `list_audit_events`: the newest first. -/
def Newer (createdAt : Uuid → Instant) (left right : AuditEventRow) : Prop :=
  createdAt right.id < createdAt left.id ∨
    (createdAt right.id = createdAt left.id ∧ right.id.int ≤ left.id.int)

instance (createdAt : Uuid → Instant) : DecidableRel (Newer createdAt) := fun _ _ =>
  inferInstanceAs (Decidable (_ ∨ _))

/-- What the export reads: the row of the user, erased or not, and then its latest audit
events, five hundred at most. -/
def readForExport (createdAt : Uuid → Instant) (userId : Uuid) :
    App (Option (UserRow × List AuditEventRow)) := do
  match ← getRow .other userId with
  | none => return none
  | some user =>
    let events ← selectFrom .other Row.auditEvent? fun event => event.userId == some userId
    return some (user, (events.insertionSort (Newer createdAt)).take 500)

/-- A text or null. -/
def optionalText : Option String → Json
  | none => .null
  | some text => .str text

/-- `_to_jsonable`. -/
def eventDocument (input : ExportInput) (event : AuditEventRow) : Json :=
  .obj
    [("id", .str event.id.str), ("user_id", optionalText (event.userId.map Uuid.str)),
      ("event_type", .str event.eventType), ("ip_address", optionalText event.ipAddress),
      ("user_agent", optionalText event.userAgent), ("metadata", .obj event.metadata),
      ("created_at", .str (input.isoformat (input.createdAt event.id)))]

/-- `_build_export_payload`. -/
def exportPayload (input : ExportInput) (user : UserRow) (events : List AuditEventRow)
    (files : List String) : Json :=
  .obj
    [("user", .obj
        [("id", .str user.id.str), ("email", .str user.email), ("is_active", .bool user.isActive),
          ("is_verified", .bool user.isVerified),
          ("created_at", .str (input.isoformat (input.createdAt user.id))),
          ("updated_at", .str (input.isoformat user.updatedAt)),
          ("last_login_at", optionalText (user.lastLoginAt.map input.isoformat))]),
      ("profile", .obj [("email", .str user.email)]),
      ("audit_events", .arr (events.map (eventDocument input))),
      ("files", .arr (files.map fun key => .obj [("key", .str key)])),
      ("exported_at", .str (input.isoformat input.exportedAt))]

/-- The key of the exported object. -/
def exportKey (userId blobId : Uuid) : String :=
  "exports/" ++ userId.str ++ "/" ++ blobId.str ++ ".json"

/-- `_list_user_files`, which answers with nothing when the backend fails. -/
def listUserFiles (faults : Faults) (userId : Uuid) (blobs : List Blob) : List String :=
  match faults.list with
  | some _ => []
  | none => list blobs (userPrefix userId)

/-- `ExportUserData.execute`: the result, and the objects afterwards. -/
def exportUserData (input : ExportInput) (userId : Uuid) (backend : Backend)
    (blobs : List Blob) : Except ExportError ExportContract × List Blob :=
  match (backend.execute (readForExport input.createdAt userId)).1 with
  | none => (.error .userNotFound, blobs)
  | some (user, events) =>
    let key := exportKey userId input.blobId
    match input.faults.put with
    | some reason => (.error (.storageWriteFailed (backendError reason)), blobs)
    | none =>
      let stored := put blobs key
        (exportPayload input user events (listUserFiles input.faults userId blobs))
      match input.faults.signedUrl key with
      | .error reason => (.error (.signedUrlFailed (backendError reason)), stored)
      | .ok url => (.ok ⟨url, input.returnedAt + 900000000⟩, stored)

theorem readForExport_effect {content : Tables} (createdAt : Uuid → Instant) (userId : Uuid) :
    Triple model (Shows content content) (readForExport createdAt userId)
      fun result _ => ∀ user events, result = some (user, events) →
        user ∈ content .user ∧ user.id = userId ∧ ∀ event ∈ events, event ∈ content .auditEvent := by
  apply (shows_getRow _ _).bind_knowing
  intro found isFound
  cases found with
  | none => exact ⟨fun _ _ user events isSome => by cases isSome⟩
  | some user =>
    apply (shows_select .auditEvent _ _).bind_knowing
    intro selected isSelected
    refine ⟨fun _ _ user events isSome => ?_⟩
    cases isSome
    refine ⟨List.mem_of_find?_eq_some isFound.symm, by simpa using List.find?_some isFound.symm, ?_⟩
    intro event isEvent
    have sorted := (List.mem_insertionSort (Newer createdAt)).mp (List.mem_of_mem_take isEvent)
    rw [isSelected] at sorted
    exact (List.mem_filter.mp sorted).1

/-- An export adds the document of a stored user at most. -/
theorem mem_exportUserData {input : ExportInput} {userId : Uuid} {backend : Backend}
    {blobs : List Blob} {blob : Blob}
    (isStored : blob ∈ (exportUserData input userId backend blobs).2) :
    blob ∈ blobs ∨ ∃ user ∈ backend.tables .user, user.id = userId ∧
      ∃ events, (∀ event ∈ events, event ∈ backend.tables .auditEvent) ∧
        blob = ⟨exportKey userId input.blobId,
          exportPayload input user events (listUserFiles input.faults userId blobs)⟩ := by
  rcases execute_spec (readForExport_effect input.createdAt userId) with
    ⟨_, reads, _⟩
  rw [exportUserData] at isStored
  split at isStored
  · exact .inl isStored
  rename_i user events isRead
  rcases reads user events isRead with ⟨stored, isUser, areStored⟩
  simp only at isStored
  split at isStored
  · exact .inl isStored
  have isPut : blob ∈ put blobs (exportKey userId input.blobId)
      (exportPayload input user events (listUserFiles input.faults userId blobs)) := by
    split at isStored <;> exact isStored
  rcases mem_put isPut with old | new
  · exact .inl old
  · exact .inr ⟨user, stored, isUser, events, areStored, new⟩

end StarterTemplate.Users
