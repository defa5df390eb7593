import StarterTemplate.Authentication.SingleUse
import StarterTemplate.Users.Effects

/-!
# Verified addresses

Registrations, verifications and changes of address that run one after another.
`UpdateProfile` leaves `is_verified` and the open verification tokens alone.  A verified
address was proven only as long as no address changes once it is verified or a token for
it is open.
-/

namespace StarterTemplate.Users

open Library Database Authentication Prog Outbox

/-! ## Proofs of an address -/

/-- The requests around a verified address, with one digest of tokens. -/
def VerificationUse (hash : String → String) : UseCase → Prop
  | .registerUser _ _ _ _ => True
  | .requestEmailVerification _ input _ => input.hashToken = hash
  | .confirmEmailVerification input _ => input.hashToken = hash
  | .updateProfile _ _ _ _ => True
  | _ => False

/-- The message carries the link with the token to the address. -/
structure Mails (message : OutboxRow) (settings : IssueSettings) (input : IssueInput)
    (email : String) : Prop where
  isMessage : message.id = input.outboxId
  job : message.jobName = "send_email"
  recipient : message.payload.lookup "to" = some (.str email)
  link : ∃ context, message.payload.lookup "context" = some (.obj context) ∧
    context.lookup "verify_url" =
      some (.str (tokenUrl settings.publicUrl "/auth/email/verify?token=" input.rawToken))

/-- The run put a verification message for the user into the outbox, addressed to the email,
with a token of the digest. -/
def Sent (hash : String → String) (run : Run) (userId : Uuid) (email digest : String) : Prop :=
  ∃ settings input, run.request = .requestEmailVerification settings input userId ∧
    run.answer = .ok () ∧ hash input.rawToken = digest ∧
    ∃ message ∈ run.after.tables .outbox, Mails message settings input email

/-- A token that was sent to the current address of the user was confirmed. -/
def Proven (hash : String → String) (past : List Run) (user : UserRow) : Prop :=
  ∃ older confirmed newer confirmation sent, past = older ++ confirmed :: newer ∧
    Confirms confirmed confirmation ∧ confirmation.purpose = .emailVerify ∧ sent ∈ older ∧
    Sent hash sent user.id user.email (hash confirmation.token)

/-- A run changes an address only while the user is not verified and has no verification
token that is unused. -/
def ProofKept (run : Run) : Prop :=
  ∀ normalize userId email now, run.request = .updateProfile normalize userId (some email) now →
    ∀ user ∈ run.before.tables .user, user.id = userId → user.isErased = false →
      normalize email ≠ user.email →
      user.isVerified = false ∧
        ∀ token ∈ run.before.tables .internalToken, token.userId = some userId →
          token.purpose = .emailVerify → token.usedAt ≠ none

/-! ## The effect of one run -/

/-- What a run does. -/
inductive VerificationStep (hash : String → String) (run : Run) : Prop where
  | registered (normalize : String → String) (input : RegistrationInput) (email password : String)
      (registered : Registered normalize input email password run.before.tables run.after.tables)
  | issued (settings : IssueSettings) (input : IssueInput) (user : UserRow)
      (isRequest : run.request = .requestEmailVerification settings input user.id)
      (digest : input.hashToken = hash) (isOk : run.answer = .ok ())
      (issued : Issued emailVerifyRequest settings input user run.before.tables run.after.tables)
  | verified (input : SessionInput) (token : String) (record : InternalTokenRow) (userId : Uuid)
      (isRequest : run.request = .confirmEmailVerification input token)
      (digest : input.hashToken = hash) (isOk : run.answer = .ok ())
      (redeems : Redeems input token .emailVerify run.before.tables record userId)
      (isAfter : run.after.tables = verifiedTables input record userId run.before.tables)
  | readdressed (normalize : String → String) (userId : Uuid) (email : String) (now : Instant)
      (user : UserRow) (isRequest : run.request = .updateProfile normalize userId (some email) now)
      (readdressed : Readdressed normalize userId email now user run.before.tables run.after.tables)
  | unchanged (same : run.after.tables = run.before.tables)

theorem verificationStep {hash : String → String} (backend : Backend) (request : UseCase)
    (isUse : VerificationUse hash request) :
    VerificationStep hash (finished Backend.serve backend request) := by
  cases request with
  | registerUser normalize input email password =>
    rcases execute_spec (registerUser_effect normalize input email password) with
      ⟨state, outcome, isStore⟩
    rw [← isStore] at outcome
    rcases outcome with registered | same
    · exact .registered normalize input email password registered
    · exact .unchanged same
  | requestEmailVerification settings input userId =>
    rcases execute_spec (requestEmailVerification_effect settings input userId) with
      ⟨state, outcome, isStore⟩
    rw [← isStore] at outcome
    rcases outcome with ⟨⟨value, isOk⟩, user, isUser, issued⟩ | same
    · subst isUser
      exact .issued settings input user rfl isUse (congrArg bare isOk) issued
    · exact .unchanged same
  | confirmEmailVerification input token =>
    rcases execute_spec (confirmEmailVerification_effect input token) with
      ⟨state, outcome, isStore⟩
    rcases outcome with ⟨isOk, record, userId, redeems, isAfter⟩ | ⟨notOk, same⟩
    · rw [← isStore] at isAfter
      exact .verified input token record userId rfl isUse isOk redeems isAfter
    · rw [← isStore] at same
      exact .unchanged same
  | updateProfile normalize userId email now =>
    rcases execute_spec (updateProfile_effect normalize userId email now) with
      ⟨state, outcome, isStore⟩
    rw [← isStore] at outcome
    rcases outcome with ⟨address, user, isAddress, readdressed⟩ | same
    · subst isAddress
      exact .readdressed normalize userId address now user rfl readdressed
    · exact .unchanged same
  | _ => cases isUse

/-! ## The invariant -/

/-- What holds between the runs: every verified address is proven, and every unused
verification token was sent to the current address of its user. -/
structure Backed (hash : String → String) (past : List Run) (backend : Backend) : Prop where
  proven : ∀ user ∈ backend.tables .user, user.isErased = false → user.isVerified = true →
    Proven hash past user
  sent : ∀ token ∈ backend.tables .internalToken, token.purpose = .emailVerify →
    token.usedAt = none → ∀ user ∈ backend.tables .user, token.userId = some user.id →
      ∃ run ∈ past, Sent hash run user.id user.email token.tokenHash
  owned : ∀ token ∈ backend.tables .internalToken, ∀ userId, token.userId = some userId →
    ∃ user ∈ backend.tables .user, user.id = userId

variable {userId : Uuid} {email : String} {normalize : String → String}

section Step

variable {hash : String → String} {past : List Run} {run : Run} {user : UserRow}

theorem Proven.later (proven : Proven hash past user) (run : Run) :
    Proven hash (past ++ [run]) user := by
  rcases proven with ⟨older, confirmed, newer, confirmation, sent, isPast, rest⟩
  refine ⟨older, confirmed, newer ++ [run], confirmation, sent, ?_, rest⟩
  rw [isPast, List.append_assoc, List.cons_append]

theorem sent_later {digest : String}
    (sent : ∃ other ∈ past, Sent hash other userId email digest) (run : Run) :
    ∃ other ∈ past ++ [run], Sent hash other userId email digest := by
  rcases sent with ⟨other, member, isSent⟩
  exact ⟨other, List.mem_append_left _ member, isSent⟩

/-- Two rows with the id of one user are the same. -/
theorem Backend.user_unique {backend : Backend} {left right : UserRow}
    (isLeft : left ∈ backend.tables .user) (isRight : right ∈ backend.tables .user)
    (sameId : left.id = right.id) : left = right :=
  List.inj_on_of_nodup_map (nodup_tables backend.store .user) isLeft isRight sameId

theorem Backed.registered {input : RegistrationInput}
    {password : String} (backed : Backed hash past run.before)
    (registered : Registered normalize input email password run.before.tables run.after.tables) :
    Backed hash (past ++ [run]) run.after := by
  have users : run.after.tables .user =
      run.before.tables .user ++ [newUser input.userId (normalize email) input.session.writtenAt] := by
    rw [registered.isAfter]
    rfl
  have tokens : run.after.tables .internalToken = run.before.tables .internalToken := by
    rw [registered.isAfter]
    rfl
  constructor
  · intro user member notErased isVerified
    rw [users] at member
    rcases List.mem_append.mp member with old | new
    · exact (backed.proven user old notErased isVerified).later run
    · rw [List.mem_singleton.mp new] at isVerified
      cases isVerified
  · intro token member isPurpose isUnused user isUser isOwner
    rw [tokens] at member
    rw [users] at isUser
    rcases List.mem_append.mp isUser with old | new
    · exact sent_later (backed.sent token member isPurpose isUnused user old isOwner) run
    · rw [List.mem_singleton.mp new] at isOwner
      rcases backed.owned token member _ isOwner with ⟨owner, stored, isNew⟩
      exact absurd isNew (registered.free owner stored).1
  intro token member userId isOwner
  rw [tokens] at member
  rcases backed.owned token member userId isOwner with ⟨owner, stored, isId⟩
  rw [users]
  exact ⟨owner, List.mem_append_left _ stored, isId⟩

theorem Backed.issued {settings : IssueSettings} {input : IssueInput}
    (backed : Backed hash past run.before)
    (isRequest : run.request = .requestEmailVerification settings input user.id)
    (digest : input.hashToken = hash) (isOk : run.answer = .ok ())
    (issued : Issued emailVerifyRequest settings input user run.before.tables run.after.tables) :
    Backed hash (past ++ [run]) run.after := by
  have users : run.after.tables .user = run.before.tables .user :=
    issued.other (by decide) (by decide) (by decide)
  have sent : Sent hash run user.id user.email (hash input.rawToken) := by
    refine ⟨settings, input, isRequest, isOk, rfl, ?_⟩
    rw [issued.isAfter]
    exact ⟨_, List.mem_concat_self, rfl, rfl, rfl, _, rfl, rfl⟩
  constructor
  · intro other member notErased isVerified
    rw [users] at member
    exact (backed.proven other member notErased isVerified).later run
  · intro token member isPurpose isUnused other isOther isOwner
    rw [issued.tokens] at member
    rw [users] at isOther
    rcases List.mem_append.mp member with older | new
    · rcases List.mem_map.mp older with ⟨old, isOld, isToken⟩
      rw [superseded] at isToken
      split at isToken
      · rw [← isToken] at isUnused
        cases isUnused
      · rw [← isToken] at isPurpose isUnused isOwner ⊢
        exact sent_later (backed.sent old isOld isPurpose isUnused other isOther isOwner) run
    rw [List.mem_singleton.mp new] at isOwner ⊢
    have isUser : other = user :=
      Backend.user_unique isOther issued.stored (Option.some.inj isOwner).symm
    refine ⟨run, List.mem_concat_self, ?_⟩
    rw [isUser, newInternalToken, digest]
    exact sent
  intro token member userId isOwner
  rw [issued.tokens] at member
  rw [users]
  rcases List.mem_append.mp member with older | new
  · rcases List.mem_map.mp older with ⟨old, isOld, isToken⟩
    rw [← isToken, superseded_same] at isOwner
    exact backed.owned old isOld userId isOwner
  · rw [List.mem_singleton.mp new] at isOwner
    exact ⟨user, issued.stored, Option.some.inj isOwner⟩

/-- `mark_verified` leaves the id, the address and the erasure of a row alone. -/
theorem verified_same (userId : Uuid) (now : Instant) (user : UserRow) :
    (verified userId now user).id = user.id ∧ (verified userId now user).email = user.email ∧
      (verified userId now user).isErased = user.isErased ∧
      ((verified userId now user).isVerified = true → user.isVerified = true ∨ user.id = userId) := by
  rw [verified]
  split
  · rename_i isUser
    exact ⟨rfl, rfl, rfl, fun _ => .inr isUser.1⟩
  · exact ⟨rfl, rfl, rfl, .inl⟩

theorem Backed.verified {input : SessionInput} {token : String} {record : InternalTokenRow}
    (backed : Backed hash past run.before)
    (isRequest : run.request = .confirmEmailVerification input token)
    (digest : input.hashToken = hash) (isOk : run.answer = .ok ())
    (redeems : Redeems input token .emailVerify run.before.tables record userId)
    (isAfter : run.after.tables = verifiedTables input record userId run.before.tables) :
    Backed hash (past ++ [run]) run.after := by
  have users : run.after.tables .user =
      (run.before.tables .user).map (Authentication.verified userId input.writtenAt) := by
    rw [isAfter]
    rfl
  have tokens : run.after.tables .internalToken =
      (run.before.tables .internalToken).map (markedUsed record input.writtenAt) := by
    rw [isAfter]
    rfl
  have stored := List.mem_of_find?_eq_some redeems.found
  have passes : record.tokenHash = hash token ∧ record.purpose = .emailVerify := by
    simpa [digest] using List.find?_some redeems.found
  constructor
  · intro new member notErased isVerified
    rw [users] at member
    rcases List.mem_map.mp member with ⟨old, isOld, isNew⟩
    rcases verified_same userId input.writtenAt old with ⟨sameId, sameEmail, sameErased, cause⟩
    rw [isNew] at sameId sameEmail sameErased cause
    rw [Proven, sameId, sameEmail]
    rcases cause isVerified with before | isUser
    · exact (backed.proven old isOld (sameErased ▸ notErased) before).later run
    rcases backed.sent record stored passes.2 redeems.unused old isOld
      (isUser ▸ redeems.owner) with ⟨sent, among, isSent⟩
    rw [passes.1] at isSent
    refine ⟨past, run, [], ⟨.emailVerify, input.now, token⟩, sent, rfl, ⟨?_, isOk⟩, rfl, among,
      isSent⟩
    rw [isRequest]
    rfl
  · intro other member isPurpose isUnused new isUser isOwner
    rw [tokens] at member
    rw [users] at isUser
    rcases List.mem_map.mp member with ⟨old, isOld, isToken⟩
    rcases List.mem_map.mp isUser with ⟨before, isBefore, isNew⟩
    rcases verified_same userId input.writtenAt before with ⟨sameId, sameEmail, _, _⟩
    rw [← isNew, sameId] at isOwner ⊢
    rw [sameEmail]
    rw [markedUsed] at isToken
    split at isToken
    · rw [← isToken] at isUnused
      cases isUnused
    · rw [← isToken] at isPurpose isUnused isOwner ⊢
      exact sent_later (backed.sent old isOld isPurpose isUnused before isBefore isOwner) run
  intro other member owner isOwner
  rw [tokens] at member
  rcases List.mem_map.mp member with ⟨old, isOld, isToken⟩
  have sameOwner : old.userId = some owner := by
    rw [← isOwner, ← isToken, markedUsed]
    split <;> rfl
  rcases backed.owned old isOld owner sameOwner with ⟨user, isUser, isId⟩
  rw [users]
  exact ⟨_, List.mem_map_of_mem isUser,
    (verified_same userId input.writtenAt user).1.trans isId⟩

theorem Backed.readdressed
    {now : Instant} (backed : Backed hash past run.before) (kept : ProofKept run)
    (isRequest : run.request = .updateProfile normalize userId (some email) now)
    (change : Readdressed normalize userId email now user run.before.tables run.after.tables) :
    Backed hash (past ++ [run]) run.after := by
  rcases kept normalize userId email now isRequest user change.stored change.isUser
    change.notErased change.changes with ⟨unverified, noneOpen⟩
  have tokens : run.after.tables .internalToken = run.before.tables .internalToken := by
    rw [change.isAfter]
    rfl
  have users : ∀ new ∈ run.after.tables .user, ∃ old ∈ run.before.tables .user,
      new.id = old.id ∧ (old.id = userId → new.isVerified = false) ∧
        (old.id ≠ userId → new = old) := by
    intro new member
    rw [change.isAfter] at member
    rcases List.mem_map.mp member with ⟨old, isOld, isNew⟩
    refine ⟨old, isOld, ?_⟩
    rw [Users.readdressed] at isNew
    split at isNew
    · rename_i isUser
      have sameUser : old = user :=
        Backend.user_unique isOld change.stored (isUser.trans change.isUser.symm)
      rw [← isNew]
      refine ⟨rfl, fun _ => ?_, fun differ => absurd isUser differ⟩
      rw [sameUser]
      exact unverified
    · rename_i differ
      exact ⟨congrArg UserRow.id isNew.symm, fun isUser => absurd isUser differ,
        fun _ => isNew.symm⟩
  constructor
  · intro new member notErased isVerified
    rcases users new member with ⟨old, isOld, _, changed, same⟩
    by_cases isUser : old.id = userId
    · simp [changed isUser] at isVerified
    · rw [same isUser] at notErased isVerified ⊢
      exact (backed.proven old isOld notErased isVerified).later run
  · intro token member isPurpose isUnused new isNew isOwner
    rw [tokens] at member
    rcases users new isNew with ⟨old, isOld, sameId, _, same⟩
    by_cases isUser : old.id = userId
    · rw [sameId, isUser] at isOwner
      exact absurd isUnused (noneOpen token member isOwner isPurpose)
    · rw [same isUser] at isOwner ⊢
      exact sent_later (backed.sent token member isPurpose isUnused old isOld isOwner) run
  intro token member owner isOwner
  rw [tokens] at member
  rcases backed.owned token member owner isOwner with ⟨old, isOld, isId⟩
  rw [change.isAfter]
  refine ⟨_, List.mem_map_of_mem isOld, ?_⟩
  rw [← isId, Users.readdressed]
  split <;> rfl

/-- Every run that changes an address in time keeps the invariant. -/
theorem Backed.step (backed : Backed hash past run.before) (kept : ProofKept run)
    (step : VerificationStep hash run) : Backed hash (past ++ [run]) run.after := by
  cases step with
  | registered normalize input email password registered => exact backed.registered registered
  | issued settings input user isRequest digest isOk issued =>
    exact backed.issued isRequest digest isOk issued
  | verified input token record userId isRequest digest isOk redeems isAfter =>
    exact backed.verified isRequest digest isOk redeems isAfter
  | readdressed normalize userId email now user isRequest change =>
    exact backed.readdressed kept isRequest change
  | unchanged same =>
    constructor
    · intro user member notErased isVerified
      rw [same] at member
      exact (backed.proven user member notErased isVerified).later run
    · intro token member isPurpose isUnused user isUser isOwner
      rw [same] at member isUser
      exact sent_later (backed.sent token member isPurpose isUnused user isUser isOwner) run
    · rw [same]
      exact backed.owned

end Step

/-! ## Whole histories -/

theorem verified_email_proven (hash : String → String) (start : Backend)
    (noTokens : start.tables .internalToken = [])
    (noneVerified : ∀ user ∈ start.tables .user, user.isErased = false → user.isVerified = false)
    (requests : List UseCase) (uses : ∀ request ∈ requests, VerificationUse hash request)
    (kept : ∀ run ∈ history Backend.serve start requests, ProofKept run) :
    ∀ user ∈ (served Backend.serve start requests).tables .user, user.isErased = false →
      user.isVerified = true → Proven hash (history Backend.serve start requests) user := by
  have initial : Backed hash [] start := by
    constructor
    · intro user membership notErased isVerified
      rw [noneVerified user membership notErased] at isVerified
      cases isVerified
    · simp [noTokens]
    · simp [noTokens]
  have preserved : ∀ past backend request, Backed hash past backend →
      (VerificationUse hash request ∧ ProofKept (finished Backend.serve backend request)) →
      Backed hash (past ++ [finished Backend.serve backend request]) (backend.serve request).2 := by
    intro past backend request backed ⟨isUse, isKept⟩
    exact Backed.step backed isKept (verificationStep backend request isUse)
  have meets : Throughout (fun _ run => VerificationUse hash run.request ∧ ProofKept run)
      (history Backend.serve start requests) := by
    intro earlier run later isSplit
    refine ⟨throughout_requests uses earlier run later isSplit, kept run ?_⟩
    rw [isSplit]
    exact List.mem_append_right earlier List.mem_cons_self
  exact (invariant_of_served preserved initial meets).proven

/-! ### A change of address before and after the verification -/

def emptyBackend : Backend where
  store := Table.empty
  cache := emptyCache

def registration : RegistrationInput where
  session := { confirmInput with auditId := 60 }
  userId := 1
  hashPassword := id

def register : UseCase := .registerUser id registration "user@example.com" "password"

def changeAddress : UseCase := .updateProfile id 1 (some "other@example.com") 90

def verifyAddress : List UseCase :=
  [.requestEmailVerification resetSettings (resetInput false) 1,
    .confirmEmailVerification confirmInput "first"]

/-- The message does not go to the address. -/
def sentElsewhere (address : String) (message : OutboxRow) : Bool :=
  match message.payload.lookup "to" with
  | some (.str recipient) => recipient != address
  | _ => true

/-- A change of address leaves the user verified, with an address to which no message was
ever sent. -/
theorem changed_email_unproven :
    (∀ request ∈ register :: verifyAddress ++ [changeAddress], VerificationUse id request) ∧
      ∃ user ∈ (served Backend.serve emptyBackend
          (register :: verifyAddress ++ [changeAddress])).tables .user,
        user.isErased = false ∧ user.isVerified = true ∧ user.email = "other@example.com" ∧
        ¬ Proven id (history Backend.serve emptyBackend
          (register :: verifyAddress ++ [changeAddress])) user := by
  constructor
  · intro request membership
    simp only [verifyAddress, List.cons_append, List.nil_append, List.mem_cons, List.not_mem_nil,
      or_false] at membership
    rcases membership with isFirst | isSecond | isThird | isLast
    · subst isFirst
      trivial
    · subst isSecond
      rfl
    · subst isThird
      rfl
    · subst isLast
      trivial
  · refine ⟨_, List.mem_cons_self, rfl, rfl, rfl, ?_⟩
    rintro ⟨older, confirmed, newer, confirmation, sent, isPast, _, _, among, isSent⟩
    rcases isSent with ⟨_, _, _, _, _, message, isMessage, mails⟩
    have elsewhere : ((history Backend.serve emptyBackend
        (register :: verifyAddress ++ [changeAddress])).all fun run =>
          (run.after.tables .outbox).all (sentElsewhere "other@example.com")) = true := by
      decide +kernel
    rw [List.all_eq_true] at elsewhere
    have isRun := List.mem_append_left (confirmed :: newer) among
    rw [← isPast] at isRun
    have recipient := List.all_eq_true.mp (elsewhere sent isRun) message isMessage
    rw [sentElsewhere, mails.recipient] at recipient
    exact absurd recipient (by decide +kernel)

/-- An address that changes before it is verified. -/
theorem verified_email_proven_change :
    ∃ user ∈ (served Backend.serve emptyBackend
        (register :: changeAddress :: verifyAddress)).tables .user,
      user.email = "other@example.com" ∧ user.isVerified = true ∧
        Proven id (history Backend.serve emptyBackend
          (register :: changeAddress :: verifyAddress)) user := by
  have uses : ∀ request ∈ register :: changeAddress :: verifyAddress,
      VerificationUse id request := by
    intro request membership
    simp only [verifyAddress, List.mem_cons, List.not_mem_nil, or_false] at membership
    rcases membership with isFirst | isSecond | isThird | isLast
    · subst isFirst
      trivial
    · subst isSecond
      trivial
    · subst isThird
      rfl
    · subst isLast
      rfl
  have kept : ∀ run ∈ history Backend.serve emptyBackend
      (register :: changeAddress :: verifyAddress), ProofKept run := by
    intro run membership
    simp only [verifyAddress, history, List.mem_cons, List.not_mem_nil, or_false] at membership
    rcases membership with isFirst | isSecond | isThird | isLast
    · subst isFirst
      intro _ _ _ _ isRequest
      cases isRequest
    · subst isSecond
      intro _ _ _ _ isRequest user stored _ _ _
      cases isRequest
      rw [List.mem_singleton.mp stored]
      exact ⟨rfl, fun token absent => absurd absent List.not_mem_nil⟩
    · subst isThird
      intro _ _ _ _ isRequest
      cases isRequest
    · subst isLast
      intro _ _ _ _ isRequest
      cases isRequest
  refine ⟨_, List.mem_cons_self, rfl, rfl, ?_⟩
  exact verified_email_proven id emptyBackend rfl (fun user absent => absurd absent
    List.not_mem_nil) _ uses kept _ List.mem_cons_self rfl rfl

end StarterTemplate.Users
