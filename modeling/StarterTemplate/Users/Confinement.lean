import StarterTemplate.Database.Texts
import StarterTemplate.Users.Deployment

/-!
# Where an address stands

The rows and the objects that hold the address of a user.  A call that brings the address
for the user only, sends no mail to it and does not export it keeps the address where an
erasure and the cleanup of the files remove it.
-/

namespace StarterTemplate.Users

open Library Database Authentication FileStorage Outbox

/-! ## Traces of an address -/

/-- No row and no object of the deployment holds the address. -/
structure NoTrace (address : String) (deployment : Deployment) : Prop where
  rows : ∀ row ∈ deployment.backend.store.rows, Silent address row.texts
  blobs : ∀ blob ∈ deployment.blobs, Silent address blob.texts

/-- An address that no id and no placeholder holds. -/
structure Distinctive (address : String) : Prop where
  hasAt : '@' ∈ address.toList
  noPlaceholder : ∀ userId, ¬ Mentions address (erasedEmail userId)

theorem Distinctive.not_mentions {address text : String} (distinctive : Distinctive address)
    (absent : '@' ∉ text.toList) : ¬ Mentions address text :=
  not_mentions_of_absent distinctive.hasAt absent

theorem at_notMem_str (id : Uuid) : '@' ∉ id.str.toList := by
  intro member
  rcases Uuid.mem_str member with digit | hyphen
  · revert digit
    decide
  · cases hyphen

theorem Distinctive.not_mentions_id {address : String} (distinctive : Distinctive address)
    (id : Uuid) : ¬ Mentions address id.str :=
  distinctive.not_mentions (at_notMem_str id)

/-- The row holds the address only where an erasure of the user replaces it. -/
def RowConfined (address : String) (userId : Uuid) : Row → Prop
  | .user user => Mentions address user.email → user.id = userId ∧ user.isErased = false
  | row => Silent address row.texts

/-- The address stands in the row of the user and in the files of the user only. -/
structure Confined (address : String) (userId : Uuid) (deployment : Deployment) : Prop where
  rows : deployment.backend.tables.All (RowConfined address userId)
  blobs : ∀ blob ∈ deployment.blobs,
    startsWith (userPrefix userId) blob.key = false → Silent address blob.texts

/-- The user is stored and erased. -/
def IsErased (userId : Uuid) (content : Tables) : Prop :=
  ∃ user ∈ content .user, user.id = userId ∧ user.isErased = true

/-- No file of the user is stored. -/
def Swept (userId : Uuid) (blobs : List Blob) : Prop :=
  ∀ blob ∈ blobs, startsWith (userPrefix userId) blob.key = false

theorem noTrace_of_confined {address : String} {userId : Uuid} {deployment : Deployment}
    (confined : Confined address userId deployment)
    (erased : IsErased userId deployment.backend.tables) (swept : Swept userId deployment.blobs) :
    NoTrace address deployment := by
  constructor
  · apply (forall_rows (fun row => Silent address row.texts) _).mpr
    intro kind record stored
    have rowConfined := confined.rows kind record stored
    cases kind with
    | user =>
      rw [Kind.row, Row.texts, silent_cons]
      refine ⟨fun mentions => ?_, silent_nil⟩
      rcases rowConfined mentions with ⟨isUser, notErased⟩
      rcases erased with ⟨user, isStored, sameId, isErased⟩
      have same : record = user :=
        List.inj_on_of_nodup_map (nodup_tables _ .user) stored isStored (isUser.trans sameId.symm)
      simp [same, isErased] at notErased
    | _ => exact rowConfined
  · intro blob stored
    exact confined.blobs blob stored (swept blob stored)

/-! ## The use cases -/

/-- The texts that the rows of a session take from the request. -/
def sessionTexts (input : SessionInput) : List String :=
  input.hashToken input.rawRefresh :: (input.ipAddress.toList ++ input.userAgent.toList)

/-- The texts that the rows of an issue take from the settings and the request. -/
def issueTexts (request : TokenRequest) (settings : IssueSettings) (input : IssueInput) :
    List String :=
  settings.displayName :: tokenUrl settings.publicUrl request.urlPath input.rawToken ::
    input.hashToken input.rawToken :: (input.ipAddress.toList ++ Dict.texts input.traceContext)

variable {user : UserRow}

variable {owner : Uuid} {normalize : String → String} {email : String} {settings : SessionSettings}
variable {request : TokenRequest}

section Rows

variable {address : String} {userId : Uuid} {content after : Tables}

variable {input : SessionInput}

theorem confined_auditEvent (distinctive : Distinctive address)
    (quiet : Silent address (sessionTexts input)) {eventType : String} {owner : Option Uuid}
    {metadata : Dict} (plainType : '@' ∉ eventType.toList)
    (plain : Silent address (Dict.texts metadata)) :
    RowConfined address userId (auditEvent input eventType owner metadata) := by
  simp only [sessionTexts, silent_cons, silent_append] at quiet
  simp only [auditEvent, RowConfined, Row.texts, silent_cons, silent_append]
  exact ⟨distinctive.not_mentions plainType, ⟨quiet.2.1, quiet.2.2⟩, plain⟩

/-- Every credential of an upsert is an old one, perhaps with the new hash, or the new one. -/
theorem mem_upserted {algorithm hash : String} {credentials : List CredentialRow}
    {credential : CredentialRow}
    (isUpserted : credential ∈ upserted input owner algorithm hash credentials) :
    (∃ old ∈ credentials, credential.algorithm = old.algorithm ∧
        (credential.hash = old.hash ∨ credential.hash = hash)) ∨
      credential = newCredential input owner algorithm hash := by
  rw [upserted] at isUpserted
  split at isUpserted
  · rcases List.mem_map.mp isUpserted with ⟨old, stored, isCredential⟩
    split at isCredential
    · exact .inl ⟨old, stored, by rw [← isCredential], .inr (by rw [← isCredential])⟩
    · exact .inl ⟨old, stored, by rw [← isCredential], .inl (by rw [← isCredential])⟩
  · rcases List.mem_append.mp isUpserted with old | new
    · exact .inl ⟨credential, old, rfl, .inl rfl⟩
    · exact .inr (List.mem_singleton.mp new)

section

variable (distinctive : Distinctive address)
include distinctive

theorem confined_registered {input : RegistrationInput}
    {password : String} (owned : Mentions address (normalize email) → input.userId = userId)
    (quiet : Silent address (input.hashPassword password :: sessionTexts input.session))
    (confined : content.All (RowConfined address userId)) :
    (registeredTables normalize input email password content).All (RowConfined address userId) := by
  rw [silent_cons] at quiet
  have withUser : (content.add
      (.user (newUser input.userId (normalize email) input.session.writtenAt))).All
        (RowConfined address userId) :=
    confined.add fun mentions => ⟨owned mentions, rfl⟩
  apply Tables.All.add
  · apply withUser.update
    intro credential isUpserted
    simp only [Kind.row, RowConfined, Row.texts, silent_cons, silent_nil, and_true]
    rcases mem_upserted isUpserted with ⟨old, stored, sameAlgorithm, hash⟩ | isNew
    · have silent := withUser .credential old stored
      simp only [Kind.row, RowConfined, Row.texts, silent_cons, silent_nil, and_true] at silent
      rw [sameAlgorithm]
      rcases hash with sameHash | newHash
      · rw [sameHash]
        exact silent
      · rw [newHash]
        exact ⟨silent.1, quiet.1⟩
    · have plain : ¬ Mentions address "argon2" := distinctive.not_mentions (by decide)
      rw [isNew]
      exact ⟨plain, quiet.1⟩
  · exact confined_auditEvent distinctive quiet.2 (by decide) silent_nil

theorem confined_loggedIn (quiet : Silent address (sessionTexts input))
    (outcome : LoginOutcome settings input content after)
    (confined : content.All (RowConfined address userId)) :
    after.All (RowConfined address userId) := by
  cases outcome with
  | same isAfter =>
    rw [isAfter]
    exact confined
  | failed owner reason isReason isAfter =>
    rw [isAfter]
    apply confined.add
    apply confined_auditEvent distinctive quiet (by decide)
    have plain : ∀ other ∈ loginFailures, '@' ∉ other.toList := by decide
    simp only [Dict.texts, fieldTexts, pairTexts, Json.texts, List.append_nil, silent_cons,
      silent_nil, and_true]
    exact ⟨distinctive.not_mentions (by decide), distinctive.not_mentions (plain reason isReason)⟩
  | marked user stored notErased count isAfter =>
    rw [isAfter]
    have marked : (content.mark .user (loggedIn user.id input.now)).All
        (RowConfined address userId) := by
      apply confined.mark
      intro record _ holds
      rw [loggedIn]
      split
      · exact holds
      · exact holds
    apply marked.addAll
    intro row isRow
    have among := List.mem_of_mem_take isRow
    simp only [loginRows, List.mem_cons, List.not_mem_nil, or_false] at among
    rcases among with isToken | isEvent
    · rw [isToken]
      exact quiet
    · rw [isEvent]
      exact confined_auditEvent distinctive quiet (by decide) silent_nil

theorem confined_issued {settings : IssueSettings} {input : IssueInput}
    (plain : ∀ text ∈ [request.eventType, request.templateName, request.urlKey], '@' ∉ text.toList)
    (quiet : Silent address (issueTexts request settings input))
    (another : ¬ Mentions address user.email)
    (issued : Issued request settings input user content after)
    (confined : content.All (RowConfined address userId)) :
    after.All (RowConfined address userId) := by
  have constant : ∀ text : String, '@' ∉ text.toList → ¬ Mentions address text :=
    fun _ => distinctive.not_mentions
  simp only [List.mem_cons, List.not_mem_nil, or_false, forall_eq_or_imp, forall_eq] at plain
  simp only [issueTexts, silent_cons, silent_append] at quiet
  rcases quiet with ⟨name, url, hash, ip, trace⟩
  rw [issued.isAfter]
  apply Tables.All.addAll
  · apply confined.mark
    intro token _ holds
    rw [superseded]
    split
    · exact holds
    · exact holds
  intro row isRow
  simp only [issueRows, issueRecords, List.mem_cons, List.not_mem_nil, or_false] at isRow
  rcases isRow with isToken | isEvent | isMessage
  · rw [isToken]
    simp only [RowConfined, Row.texts, newInternalToken, silent_cons]
    exact ⟨hash, ip⟩
  · rw [isEvent]
    simp only [RowConfined, Row.texts, silent_cons, silent_append, Option.toList_none, silent_nil,
      Dict.texts, fieldTexts, and_true]
    exact ⟨constant _ plain.1, ip⟩
  rw [isMessage]
  simp only [RowConfined, Row.texts, messageTexts, Outbox.stagedRow, Dict.texts, fieldTexts,
    pairTexts, Json.texts, List.append_nil, List.cons_append, List.nil_append, silent_cons,
    Option.toList_none, List.flatMap_nil]
  exact ⟨constant _ (by decide), constant _ (by decide), another, constant _ (by decide),
    constant _ plain.2.1, constant _ (by decide), constant _ (by decide), name,
    constant _ (by decide), another, constant _ plain.2.2, url, constant _ (by decide), trace⟩

end

theorem confined_readdressed
    {now : Instant} {store : Table Row}
    (owned : Mentions address (normalize (normalize email)) → owner = userId)
    (change : Readdressed normalize owner email now user (tables store) after)
    (confined : (tables store).All (RowConfined address userId)) :
    after.All (RowConfined address userId) := by
  rw [change.isAfter]
  apply confined.mark
  intro record stored holds
  rw [readdressed]
  split
  · rename_i isOwner
    intro mentions
    have same : record = user :=
      List.inj_on_of_nodup_map (nodup_tables store .user) stored change.stored
        (isOwner.trans change.isUser.symm)
    rw [same]
    exact ⟨change.isUser.trans (owned mentions), change.notErased⟩
  · exact holds

theorem confined_erased (distinctive : Distinctive address) {input : LifecycleInput}
    (owner : Uuid) (reason : ErasureReason) (quiet : Silent address (Dict.texts input.traceContext))
    (confined : content.All (RowConfined address userId)) :
    ((erasureRows input owner reason).foldl Tables.add
      (scrubbedTables owner input.writtenAt content)).All (RowConfined address userId) := by
  have constant : ∀ text : String, '@' ∉ text.toList → ¬ Mentions address text :=
    fun _ => distinctive.not_mentions
  apply Tables.All.addAll
  · have scrubbed : (content.mark .auditEvent (scrubbedEvent owner)).All
        (RowConfined address userId) := by
      apply confined.mark
      intro event _ holds
      rw [scrubbedEvent]
      split
      · simp only [Kind.row, RowConfined, Row.texts, silent_cons, silent_append] at holds ⊢
        refine ⟨holds.1, by simp, holds.2.2.mono ?_⟩
        intro text isText
        rcases Dict.mem_texts.mp isText with ⟨field, isField, isText⟩
        exact Dict.mem_texts.mpr ⟨field, (List.mem_filter.mp isField).1, isText⟩
      · exact holds
    apply (scrubbed.keep.keep.keep).mark
    intro user _ holds
    rw [erased]
    split
    · intro mentions
      exact absurd mentions (distinctive.noPlaceholder owner)
    · exact holds
  intro row isRow
  simp only [erasureRows, List.mem_cons, List.not_mem_nil, or_false] at isRow
  rcases isRow with isEvent | isMessage
  · rw [isEvent]
    have plainReason : '@' ∉ reason.str.toList := by
      cases reason <;> decide
    simp only [userErasedEvent, RowConfined, Row.texts, Dict.texts, fieldTexts, pairTexts,
      Json.texts, List.append_nil, List.cons_append, List.nil_append, silent_cons,
      Option.toList_none, silent_nil, and_true]
    exact ⟨constant _ (by decide), constant _ (by decide), distinctive.not_mentions_id owner,
      constant _ (by decide), constant _ plainReason⟩
  rw [isMessage]
  simp only [assetCleanup, RowConfined, Row.texts, messageTexts, Outbox.stagedRow, Dict.texts,
    fieldTexts, pairTexts, Json.texts, List.append_nil, List.cons_append, List.nil_append,
    silent_cons, Option.toList_none, List.flatMap_nil]
  exact ⟨constant _ (by decide), constant _ (by decide), distinctive.not_mentions_id owner,
    quiet⟩

/-- The users of the tables, each with the same id, and perhaps some more. -/
theorem IsErased.of_users {change : UserRow → UserRow} {more : List UserRow}
    (isErased : IsErased userId content)
    (users : after .user = (content .user).map change ++ more)
    (keeps : ∀ user, (change user).id = user.id ∧
      (user.isErased = true → (change user).isErased = true)) : IsErased userId after := by
  rcases isErased with ⟨user, stored, isUser, erased⟩
  refine ⟨change user, ?_, (keeps user).1.trans isUser, (keeps user).2 erased⟩
  rw [users]
  exact List.mem_append_left _ (List.mem_map_of_mem stored)

theorem IsErased.of_issued {settings : IssueSettings} {input : IssueInput}
    (isErased : IsErased userId content) (issued : Issued request settings input user content after) :
    IsErased userId after := by
  have users : after .user = (content .user).map id ++ [] := by
    rw [List.map_id, List.append_nil]
    exact congrFun issued.isAfter .user
  exact isErased.of_users users fun _ => ⟨rfl, id⟩

theorem isErased_loggedIn
    (outcome : LoginOutcome settings input content after) (isErased : IsErased userId content) :
    IsErased userId after := by
  cases outcome with
  | same isAfter | failed owner reason isReason isAfter =>
    rw [isAfter]
    exact isErased
  | marked user stored notErased count isAfter =>
    have users : after .user = (content .user).map (loggedIn user.id input.now) ++ [] := by
      rw [isAfter, List.append_nil]
      match count with
      | 0 => rfl
      | 1 => rfl
      | _ + 2 =>
        rw [List.take_of_length_le (by simp [loginRows])]
        rfl
    apply isErased.of_users users
    intro record
    rw [loggedIn]
    split
    · exact ⟨rfl, id⟩
    · exact ⟨rfl, id⟩

end Rows

/-! ## Conditions -/

/-- The calls of the histories. -/
def Listed : Call → Prop
  | .useCase (.registerUser _ _ _ _) => True
  | .useCase (.loginUser _ _ _ _ _ _) => True
  | .useCase (.requestPasswordReset _ _ _) => True
  | .useCase (.requestEmailVerification _ _ _) => True
  | .useCase (.updateProfile _ _ _ _) => True
  | .useCase (.eraseUser _ _ _) => True
  | .useCase _ => False
  | .exportUserData _ _ => True
  | .relayTick _ _ _ => True

/-- The texts of an answer. -/
def resultTexts : EffectResult → List String
  | .ok => []
  | .err reason => [reason]
  | .raised text => [text]

/-- The failures of a dispatch do not hold the address. -/
structure QuietJob (address : String) (input : JobInput) : Prop where
  trace : Silent address input.traceError.toList
  dedupe : Silent address input.dedupeError.toList
  mail : Silent address (resultTexts input.sendEmail)
  list : ∀ reason, input.faults.list = some reason →
    ¬ Mentions address (cleanupError (backendError reason))
  delete : ∀ key reason, input.faults.delete key = some reason →
    ¬ Mentions address (cleanupError (backendError reason))
  erasure : Silent address (Dict.texts input.erasure.traceContext)

/-- The call brings the address for the user only, and from nowhere else; no mail goes to it,
and it is not exported. -/
def Discreet (address : String) (userId : Uuid) (before : Deployment) : Call → Prop
  | .useCase (.registerUser normalize input email password) =>
    (Mentions address (normalize email) → input.userId = userId) ∧
      Silent address (input.hashPassword password :: sessionTexts input.session)
  | .useCase (.loginUser _ input _ _ _ _) => Silent address (sessionTexts input)
  | .useCase (.requestPasswordReset settings input email) =>
    (∀ user ∈ before.backend.tables .user, user.email = email → user.isErased = false →
        ¬ Mentions address user.email) ∧
      Silent address (issueTexts passwordResetRequest settings input)
  | .useCase (.requestEmailVerification settings input owner) =>
    (∀ user ∈ before.backend.tables .user, user.id = owner → user.isErased = false →
        ¬ Mentions address user.email) ∧
      Silent address (issueTexts emailVerifyRequest settings input)
  | .useCase (.updateProfile normalize owner email _) =>
    ∀ text, email = some text → Mentions address (normalize (normalize text)) → owner = userId
  | .useCase (.eraseUser input _ _) => Silent address (Dict.texts input.traceContext)
  | .useCase _ => True
  | .exportUserData input owner =>
    (∀ user ∈ before.backend.tables .user, user.id = owner → ¬ Mentions address user.email) ∧
      (∀ blob ∈ before.blobs, startsWith (userPrefix owner) blob.key = true →
        ¬ Mentions address blob.key) ∧
      ∀ moment, ¬ Mentions address (input.isoformat moment)
  | .relayTick settings _ inputs =>
    ¬ Mentions address settings.workerId ∧ ∀ id, QuietJob address (inputs id)

/-- What a step keeps. -/
structure Advanced (address : String) (userId : Uuid) (before after : Deployment) : Prop where
  confined : Confined address userId before → Confined address userId after
  erased : IsErased userId before.backend.tables → IsErased userId after.backend.tables
  swept : Swept userId before.blobs → Swept userId after.blobs

theorem Advanced.refl {address : String} {userId : Uuid} {deployment : Deployment} :
    Advanced address userId deployment deployment := ⟨id, id, id⟩

theorem Advanced.trans {address : String} {userId : Uuid} {first second third : Deployment}
    (left : Advanced address userId first second) (right : Advanced address userId second third) :
    Advanced address userId first third where
  confined := right.confined ∘ left.confined
  erased := right.erased ∘ left.erased
  swept := right.swept ∘ left.swept

variable {backend : Backend} {reason : ErasureReason}

section Steps

variable {address : String} {userId : Uuid} {deployment : Deployment}

/-- A step that changes the database only. -/
theorem Advanced.of_tables
    (confined : deployment.backend.tables.All (RowConfined address userId) →
      backend.tables.All (RowConfined address userId))
    (erased : IsErased userId deployment.backend.tables → IsErased userId backend.tables) :
    Advanced address userId deployment { deployment with backend := backend } where
  confined holds := ⟨confined holds.rows, holds.blobs⟩
  erased := erased
  swept := id

/-- A step that leaves the tables. -/
theorem advanced_unchanged (same : backend.tables = deployment.backend.tables) :
    Advanced address userId deployment { deployment with backend := backend } := by
  apply Advanced.of_tables <;> simp [same]

theorem advanced_erase (distinctive : Distinctive address) {input : LifecycleInput}
    (quiet : Silent address (Dict.texts input.traceContext)) :
    Advanced address userId deployment
      { deployment with
        backend := (deployment.backend.serve (.eraseUser input owner reason)).2 } := by
  rcases execute_spec (eraseUser_effect input owner reason) with ⟨state, outcome, isStore⟩
  rw [← isStore] at outcome
  split at outcome
  · exact advanced_unchanged outcome.2
  split at outcome
  · exact advanced_unchanged outcome.2
  split at outcome
  · apply Advanced.of_tables
    · intro confined
      have scrubbed := confined_erased distinctive owner reason quiet confined
      rw [← outcome.2] at scrubbed
      exact scrubbed
    intro isErased
    apply isErased.of_users ((congrFun outcome.2 .user).trans (List.append_nil _).symm)
    intro user
    rw [erased]
    split
    · exact ⟨rfl, fun _ => rfl⟩
    · exact ⟨rfl, id⟩
  · exact advanced_unchanged outcome.2

/-- After an erasure that answered `Ok` the user is erased. -/
theorem isErased_of_ok {input : LifecycleInput}
    (isOk : (backend.serve (.eraseUser input userId reason)).1 = .ok ()) :
    IsErased userId (backend.serve (.eraseUser input userId reason)).2.tables := by
  change (backend.execute (eraseUser input userId reason)).1 = .ok () at isOk
  rcases execute_spec (eraseUser_effect input userId reason) with ⟨state, outcome, isStore⟩
  rw [isOk, ← isStore] at outcome
  split at outcome
  · cases outcome.1
  rename_i user isFound
  have isUser : user.id = userId := by simpa using List.find?_some isFound
  have stored := List.mem_of_find?_eq_some isFound
  split at outcome
  · rename_i isErased
    have users : (backend.serve (.eraseUser input userId reason)).2.tables .user =
        backend.tables .user := congrFun outcome.2 .user
    exact ⟨user, users ▸ stored, isUser, isErased⟩
  split at outcome
  · have users : (backend.serve (.eraseUser input userId reason)).2.tables .user =
        (backend.tables .user).map (erased userId input.writtenAt) := congrFun outcome.2 .user
    refine ⟨erased userId input.writtenAt user, ?_, ?_, ?_⟩
    · rw [users]
      exact List.mem_map_of_mem stored
    · rw [erased, if_pos isUser]
      exact isUser
    · rw [erased, if_pos isUser]
  · cases outcome.1

theorem advanced_useCase (distinctive : Distinctive address) {request : UseCase}
    (isListed : Listed (.useCase request))
    (discreet : Discreet address userId deployment (.useCase request)) :
    Advanced address userId deployment
      { deployment with backend := (deployment.backend.serve request).2 } := by
  cases request with
  | registerUser normalize input email password =>
    rcases execute_spec (registerUser_effect normalize input email password) with
      ⟨state, outcome, isStore⟩
    rw [← isStore] at outcome
    rcases outcome with registered | same
    · apply Advanced.of_tables
      · intro confined
        have confinedAfter := confined_registered distinctive discreet.1 discreet.2 confined
        rw [← registered.isAfter] at confinedAfter
        exact confinedAfter
      intro isErased
      have users : (deployment.backend.serve
          (.registerUser normalize input email password)).2.tables .user =
            (deployment.backend.tables .user).map id ++
              [newUser input.userId (normalize email) input.session.writtenAt] := by
        rw [List.map_id]
        exact congrFun registered.isAfter .user
      exact isErased.of_users users fun user => ⟨rfl, id⟩
    · exact advanced_unchanged same
  | loginUser settings input verify dummyHash email password =>
    rcases execute_spec (loginUser_effect settings input verify dummyHash email password) with
      ⟨state, outcome, isStore⟩
    rw [← isStore] at outcome
    apply Advanced.of_tables
    · exact confined_loggedIn distinctive discreet outcome
    · exact isErased_loggedIn outcome
  | requestPasswordReset settings input email =>
    rcases execute_spec (requestPasswordReset_effect settings input email) with
      ⟨state, outcome, isStore⟩
    rw [← isStore] at outcome
    rcases outcome with ⟨user, isEmail, issued⟩ | same
    · apply Advanced.of_tables
      · apply confined_issued distinctive (by decide) discreet.2 _ issued
        exact discreet.1 user issued.stored isEmail issued.notErased
      · intro isErased
        exact isErased.of_issued issued
    · exact advanced_unchanged same
  | requestEmailVerification settings input owner =>
    rcases execute_spec (requestEmailVerification_effect settings input owner) with
      ⟨state, outcome, isStore⟩
    rw [← isStore] at outcome
    rcases outcome with ⟨_, user, isOwner, issued⟩ | same
    · apply Advanced.of_tables
      · apply confined_issued distinctive (by decide) discreet.2 _ issued
        exact discreet.1 user issued.stored isOwner issued.notErased
      · intro isErased
        exact isErased.of_issued issued
    · exact advanced_unchanged same
  | updateProfile normalize owner email now =>
    rcases execute_spec (updateProfile_effect normalize owner email now) with
      ⟨state, outcome, isStore⟩
    rw [← isStore] at outcome
    rcases outcome with ⟨text, user, isEmail, change⟩ | same
    · apply Advanced.of_tables
      · exact confined_readdressed (discreet text isEmail) change
      intro isErased
      apply isErased.of_users
        ((congrFun change.isAfter .user).trans (List.append_nil _).symm)
      intro record
      rw [readdressed]
      split
      · exact ⟨rfl, id⟩
      · exact ⟨rfl, id⟩
    · exact advanced_unchanged same
  | eraseUser input owner reason => exact advanced_erase distinctive discreet
  | _ => cases isListed

/-! ## The export -/

@[simp] theorem texts_optionalText (text : Option String) :
    (optionalText text).texts = text.toList := by
  cases text with
  | none | some => rfl

theorem silent_itemTexts {items : List Json} (each : ∀ item ∈ items, Silent address item.texts) :
    Silent address (itemTexts items) := by
  intro text isText
  rcases mem_itemTexts.mp isText with ⟨item, isItem, among⟩
  exact each item isItem text among

section

variable (distinctive : Distinctive address) {input : ExportInput}
  (moments : ∀ moment, ¬ Mentions address (input.isoformat moment))
include distinctive moments

theorem silent_eventDocument {event : AuditEventRow}
    (quiet : Silent address (Row.texts (.auditEvent event))) :
    Silent address (eventDocument input event).texts := by
  have constant : ∀ text : String, '@' ∉ text.toList → ¬ Mentions address text :=
    fun _ => distinctive.not_mentions
  have owner : Silent address (event.userId.map Uuid.str).toList := by
    cases event.userId with
    | none => exact silent_nil
    | some userId => exact silent_cons.mpr ⟨distinctive.not_mentions_id userId, silent_nil⟩
  simp only [Row.texts, silent_cons, silent_append, Dict.texts] at quiet
  simp only [eventDocument, Json.texts, fieldTexts, pairTexts, texts_optionalText, silent_append,
    silent_cons, silent_nil, and_true]
  exact ⟨⟨constant _ (by decide), distinctive.not_mentions_id _⟩, ⟨constant _ (by decide), owner⟩,
    ⟨constant _ (by decide), quiet.1⟩, ⟨constant _ (by decide), quiet.2.1.1⟩,
    ⟨constant _ (by decide), quiet.2.1.2⟩, ⟨constant _ (by decide), quiet.2.2⟩,
    constant _ (by decide), moments _⟩

theorem silent_exportPayload (another : ¬ Mentions address user.email) {events : List AuditEventRow}
    (quiet : ∀ event ∈ events, Silent address (Row.texts (.auditEvent event))) {files : List String}
    (names : Silent address files) :
    Silent address (exportPayload input user events files).texts := by
  have constant : ∀ text : String, '@' ∉ text.toList → ¬ Mentions address text :=
    fun _ => distinctive.not_mentions
  have login : Silent address (user.lastLoginAt.map input.isoformat).toList := by
    cases user.lastLoginAt with
    | none => exact silent_nil
    | some moment => exact silent_cons.mpr ⟨moments moment, silent_nil⟩
  have documents : Silent address (itemTexts (events.map (eventDocument input))) := by
    apply silent_itemTexts
    intro item isItem
    rcases List.mem_map.mp isItem with ⟨event, isEvent, isDocument⟩
    rw [← isDocument]
    exact silent_eventDocument distinctive moments (quiet event isEvent)
  have keys : Silent address
      (itemTexts (files.map fun key => Json.obj [("key", .str key)])) := by
    apply silent_itemTexts
    intro item isItem
    rcases List.mem_map.mp isItem with ⟨key, isKey, isObject⟩
    rw [← isObject]
    simp only [Json.texts, fieldTexts, pairTexts, List.append_nil, silent_cons, silent_nil,
      and_true]
    exact ⟨constant _ (by decide), names key isKey⟩
  simp only [exportPayload, Json.texts, fieldTexts, pairTexts, texts_optionalText, silent_append,
    silent_cons, silent_nil, and_true]
  exact ⟨⟨constant _ (by decide), ⟨constant _ (by decide), distinctive.not_mentions_id _⟩,
      ⟨constant _ (by decide), another⟩, constant _ (by decide), constant _ (by decide),
      ⟨constant _ (by decide), moments _⟩, ⟨constant _ (by decide), moments _⟩,
      constant _ (by decide), login⟩,
    ⟨constant _ (by decide), constant _ (by decide), another⟩,
    ⟨constant _ (by decide), documents⟩, ⟨constant _ (by decide), keys⟩,
    constant _ (by decide), moments _⟩

end

theorem at_notMem_exportKey (owner blobId : Uuid) : '@' ∉ (exportKey owner blobId).toList := by
  simp [exportKey, String.toList_append, at_notMem_str]

theorem advanced_export (distinctive : Distinctive address) {input : ExportInput}
    (discreet : Discreet address userId deployment (.exportUserData input owner)) :
    Advanced address userId deployment
      { deployment with
        blobs := (exportUserData input owner deployment.backend deployment.blobs).2 } where
  confined confined := by
    refine ⟨confined.rows, ?_⟩
    intro blob isStored notOwn
    rcases discreet with ⟨another, names, moments⟩
    rcases mem_exportUserData isStored with
      old | ⟨user, stored, isOwner, events, areStored, isBlob⟩
    · exact confined.blobs blob old notOwn
    have files : Silent address (listUserFiles input.faults owner deployment.blobs) := by
      intro key isListed
      rw [listUserFiles] at isListed
      split at isListed
      · cases isListed
      · rcases mem_list.mp isListed with ⟨⟨listed, isStored, isKey⟩, starts⟩
        rw [← isKey] at starts ⊢
        exact names listed isStored starts
    rw [isBlob, Blob.texts, silent_cons]
    refine ⟨distinctive.not_mentions (at_notMem_exportKey _ _), ?_⟩
    apply silent_exportPayload distinctive moments (another user stored isOwner) _ files
    intro event isEvent
    exact confined.rows .auditEvent event (areStored event isEvent)
  erased := id
  swept swept := by
    intro blob isStored
    rcases mem_exportUserData isStored with old | ⟨user, _, _, events, _, isBlob⟩
    · exact swept blob old
    · rw [isBlob]
      simp [startsWith, userPrefix, exportKey, String.toList_append, List.isPrefixOf]

end Steps

end StarterTemplate.Users
