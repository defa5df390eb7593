import StarterTemplate.Authentication.RateLimit
import StarterTemplate.Authentication.Statements

/-!
# The endpoint for forgotten passwords

`POST /auth/password/forgot`: two rate limits, `RequestPasswordReset`, and the response
model.  The response has the same status and message for every address, but the result
of the use case has an expiry only when an account was found, and the expiry is a field of
the response.
-/

namespace StarterTemplate.Authentication

open Library Database Users Prog

/-! ## Responses -/

/-- `ApplicationHTTPException`, with the header `Retry-After`. -/
structure Problem where
  status : Nat
  detail : String
  code : String
  typeUri : String
  retryAfter : Option Int
  deriving DecidableEq

/-- `raise_http_from_auth_error`; an error of the users feature takes the last branch, and
has no text. -/
def problemOf : AuthError → Problem
  | .duplicateEmail _ =>
    ⟨409, "Email already registered", "duplicate_email", "urn:problem:generic:conflict", none⟩
  | .invalidCredentials _ =>
    ⟨401, "Invalid credentials", "invalid_credentials",
      "urn:problem:auth:invalid-credentials", none⟩
  | .staleToken _ =>
    ⟨401, "Token is stale — re-authentication required", "stale_token",
      "urn:problem:auth:token-stale", none⟩
  | .invalidToken _ =>
    ⟨401, "Invalid token", "invalid_token", "urn:problem:auth:token-invalid", none⟩
  | .inactiveUser _ =>
    ⟨403, "Account inactive", "inactive_user", "urn:problem:authz:permission-denied", none⟩
  | .emailNotVerified _ =>
    ⟨403, "Email not verified", "email_not_verified",
      "urn:problem:auth:email-not-verified", none⟩
  | .notFound message =>
    ⟨404, if message = "" then "Not found" else message, "not_found",
      "urn:problem:generic:not-found", none⟩
  | .tokenAlreadyUsed _ =>
    ⟨400, "Token already used", "token_already_used", "urn:problem:auth:token-invalid", none⟩
  | .userNotFound | .userAlreadyExists => ⟨400, "", "auth_error", "about:blank", none⟩

/-- `raise_http_from_auth_error` of an exceeded limit. -/
def rateLimited (error : RateLimitExceeded) : Problem :=
  ⟨429, "Rate limit exceeded", "rate_limit_exceeded", "urn:problem:auth:rate-limited",
    some error.retryAfterSeconds⟩

/-- `InternalTokenResponse`. -/
structure InternalTokenResponse where
  message : String
  devToken : Option String
  expiresAt : Option Instant
  deriving DecidableEq

/-- How a request ends: with a response, with a problem, or with an exception that nothing
handles. -/
inductive Reply where
  | response (status : Nat) (body : InternalTokenResponse)
  | problem (problem : Problem)
  | raised (exception : String)
  deriving DecidableEq

/-! ## The endpoint -/

/-- A rate limiter with its state: the answer of `check` to a key. -/
abbrev Limiter (State : Type) := State → String → Except RateLimitExceeded Unit × State

/-- What the endpoint takes from the container. -/
structure ForgotContainer (PerIp PerAccount : Type) where
  rateLimitEnabled : Bool
  rateLimiter : Limiter PerIp
  perAccountResetLimiter : Limiter PerAccount
  settings : IssueSettings
  normalize : String → String

/-- `_account_key`. -/
def accountKey (action : String) (identifier : Option String) : String :=
  "per_account:" ++ action ++ ":" ++
    (if identifier.getD "" = "" then "unknown" else identifier.getD "")

/-- `_check_rate_limit` and `_check_per_account_rate_limit`, for their limiter and key. -/
def checkLimit {State : Type} (enabled : Bool) (limiter : Limiter State) (state : State)
    (key : String) : Option Problem × State :=
  if !enabled then (none, state)
  else
    match limiter state key with
    | (.ok (), next) => (none, next)
    | (.error error, next) => (some (rateLimited error), next)

section Endpoint

variable {PerIp PerAccount : Type} (container : ForgotContainer PerIp PerAccount)
variable (limits : PerIp × PerAccount)

/-- The two checks of the endpoint, the second one only when the first one passes. -/
def checkForgotLimits (clientIp : Option String) (email : String) :
    Option Problem × PerIp × PerAccount :=
  match checkLimit container.rateLimitEnabled container.rateLimiter limits.1
      ("/auth/password/forgot:" ++ clientIp.getD "None" ++ ":" ++ email) with
  | (some problem, perIp) => (some problem, perIp, limits.2)
  | (none, perIp) =>
    let (problem, perAccount) := checkLimit container.rateLimitEnabled
      container.perAccountResetLimiter limits.2 (accountKey "reset" (some email))
    (problem, perIp, perAccount)

/-- The response to what the use case returned. -/
def forgotReply : Answer InternalTokenResult → Reply
  | .ok result =>
    .response 202
      ⟨"If the account exists, a reset token has been created", result.token, result.expiresAt⟩
  | .err error => .problem (problemOf error)
  | .raised exception => .raised exception

/-- `forgot_password`, for the address of the request body: the reply, and what it leaves.
The address of the client is the one of the input. -/
def forgotPassword (input : IssueInput) (email : String) (store : Table Row)
    (cache : PrincipalCache) : Reply × (PerIp × PerAccount) × Table Row × PrincipalCache :=
  match checkForgotLimits container limits input.ipAddress email with
  | (some problem, limits) => (.problem problem, limits, store, cache)
  | (none, limits) =>
    let (answer, store, cache) :=
      (requestPasswordReset container.settings input (container.normalize email)).execute model
        store cache
    (forgotReply answer, limits, store, cache)

/-! ## Two runs -/

/-- One of the limiters refuses the request. -/
def RefusedByLimit (clientIp : Option String) (email : String) : Prop :=
  ∃ problem, (checkForgotLimits container limits clientIp email).1 = some problem

/-- What the use case returns for an account, unless a constraint is violated. -/
theorem issueToken_answer (request : TokenRequest) (settings : IssueSettings) (input : IssueInput)
    (user : UserRow) (state : Prog.State Row PrincipalCache) :
    ((issueToken request settings input user).alone model state).1 =
        .ok ⟨if settings.returnInternalTokens then some input.rawToken else none,
          some (input.now + settings.expireMinutes * 60000000)⟩ ∨
      ((issueToken request settings input user).alone model state).1 =
        .raised "IntegrityError" := by
  rw [issueToken]
  simp only [bind_eq, alone_bind]
  split
  · exact .inl rfl
  · exact .inr rfl

/-- What the endpoint sees of a run of the use case that raises nothing: whether an account
was found. -/
theorem forgotReply_eq {settings : IssueSettings} (hidden : settings.returnInternalTokens = false)
    {input : IssueInput} {email : String} {store : Table Row} {cache : PrincipalCache}
    (returns : ∀ exception, forgotReply
      ((requestPasswordReset settings input email).execute model store cache).1 ≠
        .raised exception) :
    forgotReply ((requestPasswordReset settings input email).execute model store cache).1 =
      .response 202 ⟨"If the account exists, a reset token has been created", none,
        if (accountOf store email).isSome then
          some (input.now + settings.expireMinutes * 60000000) else none⟩ := by
  rw [execute, requestPasswordReset] at returns ⊢
  simp only [bind_eq, alone_bind, alone_getByEmail] at returns ⊢
  cases account : accountOf store email with
  | none => rfl
  | some user =>
    simp only [account] at returns
    rcases issueToken_answer passwordResetRequest settings input user ⟨store, store, cache⟩ with
      issued | violated
    · simp only [issued, hidden]
      rfl
    · rw [violated] at returns
      exact absurd rfl (returns "IntegrityError")

end Endpoint

/-- The endpoint without rate limits. -/
def openContainer : ForgotContainer Unit Unit :=
  ⟨false, fun state _ => (.ok (), state), fun state _ => (.ok (), state), resetSettings, id⟩

end StarterTemplate.Authentication
