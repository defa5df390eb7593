import StarterTemplate.Library.Addresses

/-!
# The keys of the rate limiter

`_check_rate_limit` joins the path of the request, the address of the client and an
identifier with colons.  No path has a colon, but an IPv6 address has, and so may the
identifier of a login: its schema asks for a length only.  Two requests can then split the
same key at different colons.
-/

namespace StarterTemplate.Authentication

open Library

/-! ## Requests -/

/-- The routes of `auth_router`. -/
inductive AuthRoute where
  | register
  | login
  | refresh
  | logout
  | logoutAll
  | me
  | passwordForgot
  | passwordReset
  | emailVerifyRequest
  | emailVerify
  deriving DecidableEq

/-- The path of the route. -/
def AuthRoute.path : AuthRoute → String
  | .register => "/auth/register"
  | .login => "/auth/login"
  | .refresh => "/auth/refresh"
  | .logout => "/auth/logout"
  | .logoutAll => "/auth/logout-all"
  | .me => "/auth/me"
  | .passwordForgot => "/auth/password/forgot"
  | .passwordReset => "/auth/password/reset"
  | .emailVerifyRequest => "/auth/email/verify/request"
  | .emailVerify => "/auth/email/verify"

/-- `str.strip` and `str.lower`. -/
structure TextLibrary where
  strip : String → String
  lower : String → String

/-- `normalize_email`. -/
def normalizeEmail (text : TextLibrary) (email : String) : String := text.lower (text.strip email)

/-- A field with bounds on its length, and a validator that normalizes it. -/
def emailField (minLength maxLength : Nat) (text : TextLibrary) (raw : String) : Option String :=
  if minLength ≤ raw.length ∧ raw.length ≤ maxLength then some (normalizeEmail text raw) else none

/-- `LoginRequest.email`. -/
def loginRequestEmail : TextLibrary → String → Option String := emailField 3 254

/-- `PasswordForgotRequest.email`. -/
def passwordForgotRequestEmail : TextLibrary → String → Option String := emailField 3 254

/-- The key of `_check_rate_limit`. -/
def rateLimitKey (path clientIp key : String) : String := path ++ ":" ++ clientIp ++ ":" ++ key

/-- A request with a valid address and an identifier that one of the two schemas accepts. -/
structure LimitedRequest (text : TextLibrary) where
  route : AuthRoute
  address : String
  isAddress : IsIPv4 address.toList ∨ IsIPv6 address.toList
  identifier : String
  isAccepted : ∃ raw, loginRequestEmail text raw = some identifier ∨
    passwordForgotRequestEmail text raw = some identifier

namespace LimitedRequest

variable {text : TextLibrary}

/-- The key of the request. -/
def key (request : LimitedRequest text) : String :=
  rateLimitKey request.route.path request.address request.identifier

/-- The path, the address and the identifier of the two requests are equal. -/
def Same (first second : LimitedRequest text) : Prop :=
  first.route.path = second.route.path ∧ first.address = second.address ∧
    first.identifier = second.identifier

end LimitedRequest

/-! ## Keys -/

theorem AuthRoute.noColon (route : AuthRoute) : ':' ∉ route.path.toList := by
  cases route <;> decide

theorem toList_rateLimitKey (path clientIp key : String) :
    (rateLimitKey path clientIp key).toList =
      path.toList ++ ':' :: (clientIp.toList ++ ':' :: key.toList) := by
  simp [rateLimitKey, String.toList_append]

variable {first second : List Char} {before after : List Char}

/-- A dotted quad is told from any other address at the first colon. -/
theorem split_quad (quad : IsIPv4 first) (other : IsIPv4 second ∨ IsIPv6 second)
    (same : first ++ ':' :: before = second ++ ':' :: after) : first = second ∧ before = after := by
  rcases other with otherQuad | address
  · exact split_at_first quad.letters.2 otherQuad.letters.2 same
  rcases address.plainHead with ⟨head, rest, isSecond, noDot, noColon⟩
  rw [isSecond, List.append_assoc, List.cons_append] at same
  have isHead := (split_at_first quad.letters.2 noColon same).1
  rw [← isHead] at noDot
  exact absurd quad.letters.1 noDot

/-- The functions of the library on ASCII texts. -/
def asciiText : TextLibrary where
  strip text := String.ofList
    ((text.toList.dropWhile Char.isWhitespace).reverse.dropWhile Char.isWhitespace).reverse
  lower text := String.ofList (text.toList.map Char.toLower)

theorem isIPv4_documentation : IsIPv4 "192.0.2.7".toList :=
  ⟨"192".toList, "0".toList, "2".toList, "7".toList, by decide, by decide, by decide, by decide,
    by decide⟩

theorem isIPv6_loopback : IsIPv6 "::1".toList :=
  @IsIPv6.compressed [] [['1']] (by decide) (by decide) (by decide)

theorem isIPv6_two_groups : IsIPv6 "::1:2".toList :=
  @IsIPv6.compressed [] [['1'], ['2']] (by decide) (by decide) (by decide)

/-- A login from a dotted quad. -/
def quadLogin : LimitedRequest asciiText where
  route := .login
  address := "192.0.2.7"
  isAddress := .inl isIPv4_documentation
  identifier := "ann@example.com"
  isAccepted := ⟨" Ann@Example.com", by decide⟩

/-- A login from the loopback address, with a colon in its identifier. -/
def loopbackLogin : LimitedRequest asciiText where
  route := .login
  address := "::1"
  isAddress := .inr isIPv6_loopback
  identifier := "2:abc"
  isAccepted := ⟨"2:abc", by decide⟩

/-- A login from another address. -/
def otherLogin : LimitedRequest asciiText where
  route := .login
  address := "::1:2"
  isAddress := .inr isIPv6_two_groups
  identifier := "abc"
  isAccepted := ⟨"abc", by decide⟩

end StarterTemplate.Authentication
