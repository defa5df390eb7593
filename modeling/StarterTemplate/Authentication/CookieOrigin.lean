import Mathlib.Logic.Basic

/-!
# The origin of requests with the refresh cookie

`_enforce_cookie_origin`, over `urllib.parse.urlsplit` and the properties of its result, each
of which may raise `ValueError`.  Only the call of `urlsplit` itself is inside a handler, and
the host of the origin is written without the brackets of an IP literal.
-/

namespace StarterTemplate.Authentication

/-- The result of `urlsplit`: its properties, where `none` is a `ValueError`, and whether the
host stands in brackets. -/
structure SplitResult where
  scheme : String
  hostname : Option (Option String)
  port : Option (Option Nat)
  bracketed : Bool

/-- `urlsplit`, where `none` is a `ValueError`. -/
abbrev UrlSplit := String → Option SplitResult

/-- What `_enforce_cookie_origin` raises. -/
inductive OriginError where
  | http (status : Nat) (detail : String)
  | valueError
  deriving DecidableEq

/-- `HTTPException(403, "Untrusted origin")`. -/
def untrusted : OriginError := .http 403 "Untrusted origin"

/-- `:port`, if there is one. -/
def portText : Option Nat → String
  | none => ""
  | some port => ":" ++ toString port

/-- `_referer_origin`. -/
def refererOrigin (urlsplit : UrlSplit) (referer : String) : Except OriginError (Option String) :=
  match urlsplit referer with
  | none => .ok none
  | some parts =>
    if parts.scheme = "" then .ok none
    else
      match parts.hostname with
      | none => .error .valueError
      | some hostname =>
        if hostname.getD "" = "" then .ok none
        else
          match parts.port with
          | none => .error .valueError
          | some port =>
            .ok (some (parts.scheme ++ "://" ++ (hostname.getD "" ++ portText port)))

/-- `REFRESH_COOKIE_NAME`. -/
def refreshCookieName : String := "refresh_token"

/-- `_enforce_cookie_origin`, with the headers and the names of the cookies. -/
def enforceCookieOrigin (urlsplit : UrlSplit) (corsOrigins : List String)
    (origin referer : Option String) (cookies : List String) : Except OriginError Unit :=
  match origin with
  | some origin =>
    if "*" ∈ corsOrigins then .ok ()
    else if origin ∈ corsOrigins then .ok ()
    else .error untrusted
  | none =>
    match referer with
    | some referer =>
      match refererOrigin urlsplit referer with
      | .error exception => .error exception
      | .ok none => .error untrusted
      | .ok (some refererOrigin) =>
        if "*" ∈ corsOrigins then .ok ()
        else if refererOrigin ∈ corsOrigins then .ok ()
        else .error untrusted
    | none => if refreshCookieName ∈ cookies then .error untrusted else .ok ()

/-! ## Which requests are accepted -/

/-- The origin of a URL: its scheme, its host as a URL writes it, and its port. -/
def OriginOf (urlsplit : UrlSplit) (url origin : String) : Prop :=
  ∃ parts host port, urlsplit url = some parts ∧ parts.scheme ≠ "" ∧
    parts.hostname = some (some host) ∧ host ≠ "" ∧ parts.port = some port ∧
    origin = parts.scheme ++ "://" ++
      ((if parts.bracketed then "[" ++ host ++ "]" else host) ++ portText port)

/-- The request comes from a listed origin, or cannot use the cookie. -/
def FromTrusted (urlsplit : UrlSplit) (corsOrigins : List String)
    (origin referer : Option String) (cookies : List String) : Prop :=
  (∃ value ∈ corsOrigins, origin = some value) ∨
    (origin = none ∧ ∃ url, referer = some url ∧ ∃ value ∈ corsOrigins, OriginOf urlsplit url value) ∨
    (origin = none ∧ referer = none ∧ refreshCookieName ∉ cookies)

/-- Nothing of the URL raises once it is split, and its host is no IP literal. -/
def Plain (urlsplit : UrlSplit) (url : String) : Prop :=
  ∀ parts, urlsplit url = some parts →
    parts.hostname ≠ none ∧ parts.port ≠ none ∧ parts.bracketed = false

variable {urlsplit : UrlSplit} {url : String}

/-- What `_referer_origin` returns for such a URL is its origin. -/
theorem refererOrigin_of_plain (plain : Plain urlsplit url) :
    ∃ found, refererOrigin urlsplit url = .ok found ∧
      ∀ value, OriginOf urlsplit url value ↔ found = some value := by
  rw [refererOrigin]
  cases isSplit : urlsplit url with
  | none =>
    refine ⟨none, rfl, fun value => ⟨?_, fun absent => by cases absent⟩⟩
    rintro ⟨parts, host, port, isParts, _⟩
    simp [isSplit] at isParts
  | some parts =>
    rcases plain parts isSplit with ⟨hasHostname, hasPort, unbracketed⟩
    have isOrigin : ∀ value, OriginOf urlsplit url value ↔ parts.scheme ≠ "" ∧
        ∃ host port, parts.hostname = some (some host) ∧ host ≠ "" ∧ parts.port = some port ∧
          value = parts.scheme ++ "://" ++ (host ++ portText port) := by
      intro value
      constructor
      · rintro ⟨others, host, port, isParts, hasScheme, isHost, nonempty, isPort, isValue⟩
        rw [isSplit] at isParts
        cases isParts
        rw [unbracketed] at isValue
        exact ⟨hasScheme, host, port, isHost, nonempty, isPort, isValue⟩
      rintro ⟨hasScheme, host, port, isHost, nonempty, isPort, isValue⟩
      refine ⟨parts, host, port, isSplit, hasScheme, isHost, nonempty, isPort, ?_⟩
      rw [unbracketed]
      exact isValue
    simp only [isOrigin]
    by_cases noScheme : parts.scheme = ""
    · refine ⟨none, if_pos noScheme, fun value => ?_⟩
      simp [noScheme]
    rw [if_neg noScheme]
    cases isHost : parts.hostname with
    | none => exact absurd isHost hasHostname
    | some hostname =>
      cases isPort : parts.port with
      | none => exact absurd isPort hasPort
      | some port =>
        cases hostname with
        | none => exact ⟨none, rfl, fun value => by simp⟩
        | some host =>
          by_cases noHost : host = ""
          · refine ⟨none, if_pos noHost, fun value => ?_⟩
            simp [noHost]
          · refine ⟨_, if_neg noHost, fun value => ?_⟩
            simp [noScheme, noHost, eq_comm]

/-- What CPython makes of three URLs. -/
def splitSample : UrlSplit
  | "https://app.example.com/login" =>
    some ⟨"https", some (some "app.example.com"), some none, false⟩
  | "https://app.example.com:99999/login" =>
    some ⟨"https", some (some "app.example.com"), none, false⟩
  | "http://[::1]:3000/login" => some ⟨"http", some (some "::1"), some (some 3000), true⟩
  | _ => none

end StarterTemplate.Authentication
