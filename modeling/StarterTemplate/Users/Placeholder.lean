import StarterTemplate.Users.ProvenEmail

/-!
# The placeholder address

An erasure replaces the address of a user by a placeholder that is made of the user's id.
Nothing reserves the placeholders: another account can hold one, and the erasure then
fails on the unique index.  It cannot fail as long as no account takes the placeholder of
another id.
-/

namespace StarterTemplate.Users

open Library Database Authentication Prog

/-! ## Requests and placeholders -/

/-- The validation of the address in `RegisterRequest`: the normalized address, unless the
request is refused. -/
def registerEmail (normalize : String → String) (value : String) : Option String :=
  if 3 ≤ value.length ∧ value.length ≤ 254 ∧ '@' ∈ (normalize value).toList then
    some (normalize value)
  else none

/-- Registrations, changes of address and erasures. -/
def AccountUse : UseCase → Prop
  | .registerUser _ _ _ _ => True
  | .updateProfile _ _ _ _ => True
  | .eraseUser _ _ _ => True
  | _ => False

/-- The request does not ask for the placeholder of another id. -/
def SparesPlaceholders : UseCase → Prop
  | .registerUser normalize input email _ =>
    ∀ userId, normalize email = erasedEmail userId → userId = input.userId
  | .updateProfile normalize userId (some email) _ =>
    ∀ other, normalize (normalize email) = erasedEmail other → other = userId
  | _ => True

/-- Nobody holds the placeholder of another id. -/
def OwnPlaceholders (users : List UserRow) : Prop :=
  ∀ user ∈ users, ∀ userId, user.email = erasedEmail userId → userId = user.id

/-- The ids that an erasure generates are not in use. -/
structure FreshErasure (input : LifecycleInput) (content : Tables) : Prop where
  audit : ∀ event ∈ content .auditEvent, event.id ≠ input.auditId
  outbox : ∀ message ∈ content .outbox, message.id ≠ input.outboxId

/-- The row of an erased user. -/
structure Scrubbed (userId : Uuid) (user : UserRow) : Prop where
  isUser : user.id = userId
  email : user.email = erasedEmail userId
  inactive : user.isActive = false
  isErased : user.isErased = true
  noLogin : user.lastLoginAt = none

theorem erasedEmail_injective {left right : Uuid} (same : erasedEmail left = erasedEmail right) :
    left = right := by
  apply Uuid.str_injective
  rw [erasedEmail, erasedEmail] at same
  have lists := congrArg String.toList same
  simp only [String.toList_append, List.append_assoc] at lists
  have middle := List.append_cancel_right (List.append_cancel_left lists)
  exact String.toList_injective middle

/-! ## One erasure -/

section Erasure

variable {content : Tables} {input : LifecycleInput} {userId : Uuid}

theorem accepts_erasureRows (reason : ErasureReason) (fresh : FreshErasure input content) :
    Accepts (scrubbedTables userId input.writtenAt content) (erasureRows input userId reason) := by
  refine ⟨?_, ?_, trivial⟩
  · intro ⟨old, stored, violates⟩
    rcases violates with sameKey | clash
    · rcases List.mem_map.mp stored with ⟨event, isEvent, isOld⟩
      apply fresh.audit event isEvent
      have sameId : old.id = event.id := by
        rw [← isOld, scrubbedEvent]
        split <;> rfl
      rw [← sameId]
      exact (RowKey.auditEvent.inj sameKey).symm
    · cases clash
  intro ⟨old, stored, violates⟩
  rcases violates with sameKey | clash
  · exact fresh.outbox old stored (RowKey.outbox.inj sameKey).symm
  · cases clash

/-- An erasure that nobody blocks. -/
theorem erase_succeeds (backend : Backend) (reason : ErasureReason)
    (own : OwnPlaceholders (backend.tables .user))
    (fresh : FreshErasure input backend.tables) {user : UserRow}
    (stored : user ∈ backend.tables .user) (isUser : user.id = userId)
    (notErased : user.isErased = false) :
    (backend.serve (.eraseUser input userId reason)).1 = .ok () ∧
      (backend.serve (.eraseUser input userId reason)).2.tables =
        (erasureRows input userId reason).foldl Tables.add
          (scrubbedTables userId input.writtenAt backend.tables) := by
  have found : ((backend.tables .user).find? fun user => user.id == userId) = some user := by
    cases isFound : (backend.tables .user).find? fun user => user.id == userId with
    | none => exact absurd (beq_iff_eq.mpr isUser) (List.find?_eq_none.mp isFound user stored)
    | some read =>
      rw [eq_of_find_id (nodup_tables backend.store .user) isFound user stored isUser]
  have free : ¬ PlaceholderTaken userId backend.tables := by
    intro ⟨other, isStored, isPlaceholder, differ⟩
    exact differ (own other isStored userId isPlaceholder).symm
  rcases execute_spec (eraseUser_effect input userId reason) with ⟨state, outcome, isStore⟩
  rw [found] at outcome
  simp only [notErased, Bool.false_eq_true, if_false,
    if_pos (And.intro free (accepts_erasureRows reason fresh))] at outcome
  rw [← isStore] at outcome
  exact outcome

end Erasure

/-! ## Whole histories -/

/-- An erasure leaves the users alone, or gives one of them its own placeholder. -/
theorem erase_users (backend : Backend) (input : LifecycleInput) (userId : Uuid)
    (reason : ErasureReason) :
    (backend.serve (.eraseUser input userId reason)).2.tables .user = backend.tables .user ∨
      ¬ PlaceholderTaken userId backend.tables ∧
      (backend.serve (.eraseUser input userId reason)).2.tables .user =
        (backend.tables .user).map (erased userId input.writtenAt) := by
  rcases execute_spec (eraseUser_effect input userId reason) with ⟨state, outcome, isStore⟩
  rw [← isStore] at outcome
  split at outcome
  · exact .inl (congrFun outcome.2 .user)
  split at outcome
  · exact .inl (congrFun outcome.2 .user)
  split at outcome
  · rename_i accepted
    exact .inr ⟨accepted.1, congrFun outcome.2 .user⟩
  · exact .inl (congrFun outcome.2 .user)

/-- No request that spares the placeholders of others takes one. -/
theorem ownPlaceholders_step (backend : Backend) (request : UseCase)
    (isUse : AccountUse request) (spares : SparesPlaceholders request)
    (own : OwnPlaceholders (backend.tables .user)) :
    OwnPlaceholders ((backend.serve request).2.tables .user) := by
  cases request with
  | registerUser normalize input email password =>
    rcases execute_spec (registerUser_effect normalize input email password) with
      ⟨state, outcome, isStore⟩
    rw [← isStore] at outcome
    rcases outcome with registered | same
    · have users : (backend.serve (.registerUser normalize input email password)).2.tables .user =
          backend.tables .user ++
            [newUser input.userId (normalize email) input.session.writtenAt] :=
        congrFun registered.isAfter .user
      intro user member userId isPlaceholder
      rw [users] at member
      rcases List.mem_append.mp member with old | new
      · exact own user old userId isPlaceholder
      · rw [List.mem_singleton.mp new] at isPlaceholder ⊢
        exact spares userId isPlaceholder
    have users : (backend.serve (.registerUser normalize input email password)).2.tables .user =
        backend.tables .user := congrFun same .user
    rw [users]
    exact own
  | updateProfile normalize userId email now =>
    rcases execute_spec (updateProfile_effect normalize userId email now) with
      ⟨state, outcome, isStore⟩
    rw [← isStore] at outcome
    rcases outcome with ⟨address, user, isAddress, change⟩ | same
    · subst isAddress
      have users :
          (backend.serve (.updateProfile normalize userId (some address) now)).2.tables .user =
            (backend.tables .user).map (readdressed userId (normalize (normalize address)) now) :=
        congrFun change.isAfter .user
      intro new member other isPlaceholder
      rw [users] at member
      rcases List.mem_map.mp member with ⟨old, isOld, isNew⟩
      rw [readdressed] at isNew
      split at isNew
      · rename_i isUser
        rw [← isNew] at isPlaceholder ⊢
        exact (spares other isPlaceholder).trans isUser.symm
      · rw [← isNew] at isPlaceholder ⊢
        exact own old isOld other isPlaceholder
    have users : (backend.serve (.updateProfile normalize userId email now)).2.tables .user =
        backend.tables .user := congrFun same .user
    rw [users]
    exact own
  | eraseUser input userId reason =>
    rcases erase_users backend input userId reason with same | ⟨_, changed⟩
    · rw [same]
      exact own
    intro new member other isPlaceholder
    rw [changed] at member
    rcases List.mem_map.mp member with ⟨old, isOld, isNew⟩
    rw [erased] at isNew
    split at isNew
    · rename_i isUser
      rw [← isNew] at isPlaceholder ⊢
      exact (erasedEmail_injective isPlaceholder).symm.trans isUser.symm
    · rw [← isNew] at isPlaceholder ⊢
      exact own old isOld other isPlaceholder
  | _ => cases isUse

/-- Between the runs nobody holds the placeholder of another id. -/
def Unsquatted (_ : List Run) (backend : Backend) : Prop := OwnPlaceholders (backend.tables .user)

theorem erasure_not_blocked (start : Backend) (own : OwnPlaceholders (start.tables .user))
    (requests : List UseCase) (uses : ∀ request ∈ requests, AccountUse request)
    (spares : ∀ request ∈ requests, SparesPlaceholders request) (earlier later : List Run)
    (run : Run) (isSplit : history Backend.serve start requests = earlier ++ run :: later)
    (input : LifecycleInput) (userId : Uuid) (reason : ErasureReason)
    (isRequest : run.request = .eraseUser input userId reason)
    (fresh : FreshErasure input run.before.tables) (user : UserRow)
    (stored : user ∈ run.before.tables .user) (isUser : user.id = userId)
    (notErased : user.isErased = false) :
    run.answer = .ok () ∧ ∃ row ∈ run.after.tables .user, Scrubbed userId row := by
  have preserved : ∀ past backend request, Unsquatted past backend → request ∈ requests →
      Unsquatted (past ++ [finished Backend.serve backend request]) (backend.serve request).2 := by
    intro _ backend request own among
    exact ownPlaceholders_step backend request (uses request among) (spares request among) own
  rcases invariant_before preserved own (throughout_requests fun _ among => among) isSplit with
    ⟨ownBefore, isRun⟩
  rcases erase_succeeds run.before reason ownBefore fresh stored isUser notErased with
    ⟨isOk, isAfter⟩
  rw [isRequest] at isRun
  rw [isRun]
  refine ⟨isOk, erased userId input.writtenAt user, ?_, ?_⟩
  · have users : (run.before.serve (.eraseUser input userId reason)).2.tables .user =
        (run.before.tables .user).map (erased userId input.writtenAt) := congrFun isAfter .user
    rw [finished, users]
    exact List.mem_map_of_mem stored
  · rw [erased, if_pos isUser]
    exact ⟨isUser, rfl, rfl, rfl, rfl⟩

/-! ### An account that holds the placeholder of another -/

def eraseInput : LifecycleInput where
  session := confirmInput
  outboxId := 70
  auditId := 71
  traceContext := []
  stagedAt := 100
  writtenAt := 100

def otherRegistration : RegistrationInput where
  session := { confirmInput with auditId := 61, credentialId := 44 }
  userId := 2
  hashPassword := id

/-- The address passes the schema, the second account is registered with it, and the
erasure of the first fails. -/
theorem erasure_blocked :
    registerEmail id (erasedEmail 1) = some (erasedEmail 1) ∧
      ∃ earlier run, history Backend.serve emptyBackend
          [register, .registerUser id otherRegistration (erasedEmail 1) "password",
            .eraseUser eraseInput 1 .selfRequest] = earlier ++ [run] ∧
        run.request = .eraseUser eraseInput 1 .selfRequest ∧
        FreshErasure eraseInput run.before.tables ∧
        (∃ user ∈ run.before.tables .user, user.id = 1 ∧ user.isErased = false) ∧
        run.answer = .raised "IntegrityError" ∧
        ∀ user ∈ run.after.tables .user, user.isErased = false := by
  refine ⟨by decide +kernel, [_, _], _, rfl, rfl, ?_, ⟨_, List.mem_cons_self, rfl, rfl⟩, rfl, ?_⟩
  · constructor
    · decide +kernel
    · decide +kernel
  · decide +kernel

/-- An erasure after a registration. -/
theorem erasure_not_blocked_registered :
    ∃ earlier run, history Backend.serve emptyBackend
        [register, changeAddress, .eraseUser eraseInput 1 .selfRequest] = earlier ++ [run] ∧
      run.answer = .ok () ∧ ∃ row ∈ run.after.tables .user, Scrubbed 1 row := by
  have uses : ∀ request ∈ [register, changeAddress, .eraseUser eraseInput 1 .selfRequest],
      AccountUse request ∧ SparesPlaceholders request := by
    intro request membership
    simp only [List.mem_cons, List.not_mem_nil, or_false] at membership
    rcases membership with isFirst | isSecond | isLast
    · subst isFirst
      refine ⟨trivial, fun userId isPlaceholder => ?_⟩
      have differ := congrArg (fun email => email.toList.head?) isPlaceholder
      rw [erasedEmail] at differ
      simp at differ
    · subst isSecond
      refine ⟨trivial, fun userId isPlaceholder => ?_⟩
      have differ := congrArg (fun email => email.toList.head?) isPlaceholder
      rw [erasedEmail] at differ
      simp at differ
    · subst isLast
      exact ⟨trivial, trivial⟩
  have evaluated : ∃ earlier run, history Backend.serve emptyBackend
        [register, changeAddress, .eraseUser eraseInput 1 .selfRequest] = earlier ++ [run] ∧
      run.request = .eraseUser eraseInput 1 .selfRequest ∧
      FreshErasure eraseInput run.before.tables ∧
      ∃ user ∈ run.before.tables .user, user.id = 1 ∧ user.isErased = false := by
    refine ⟨[_, _], _, rfl, rfl, ⟨?_, ?_⟩, _, List.mem_cons_self, rfl, rfl⟩
    · decide +kernel
    · decide +kernel
  rcases evaluated with ⟨earlier, run, isSplit, isRequest, fresh, user, stored, isUser, notErased⟩
  refine ⟨earlier, run, isSplit, ?_⟩
  exact erasure_not_blocked emptyBackend (fun user absent => absurd absent List.not_mem_nil) _
    (fun request among => (uses request among).1) (fun request among => (uses request among).2)
    earlier [] run isSplit eraseInput 1 .selfRequest isRequest fresh user stored isUser notErased

end StarterTemplate.Users
