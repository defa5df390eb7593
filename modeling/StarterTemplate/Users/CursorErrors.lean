import Mathlib
import StarterTemplate.Users.AdminLists

/-!
# Cursors that cannot be decoded

`decode_cursor` of both features, with the exceptions of its libraries and the classes that
its handlers name.  Besides `JSONDecodeError`, `json.loads` raises a plain `ValueError` for an
integer of too many digits and a `RecursionError` for a document that is nested too deeply.
No handler names these two, and the lists answer them with 500.
-/

namespace StarterTemplate.Users

open Library

/-! ## Exceptions -/

/-- The exceptions that the codec meets and raises. -/
inductive PyException where
  | unicodeEncodeError
  | binasciiError
  | unicodeDecodeError
  | jsonDecodeError
  | valueError
  | recursionError
  | invalidCursorError (message : String)

namespace PyException

/-- `ValueError` is above the classes of all of them but one. -/
def isValueError : PyException → Bool
  | recursionError => false
  | _ => true

/-- `except (binascii.Error, UnicodeEncodeError, ValueError)`. -/
def isBase64Error : PyException → Bool
  | binasciiError | unicodeEncodeError => true
  | exception => exception.isValueError

/-- `except (UnicodeDecodeError, json.JSONDecodeError)`. -/
def isPayloadError : PyException → Bool
  | unicodeDecodeError | jsonDecodeError => true
  | _ => false

end PyException

/-- A part of the codec whose handler raises `InvalidCursorError` instead. -/
def caught {Value : Type} (handles : PyException → Bool) (message : String) :
    Except PyException Value → Except PyException Value
  | .ok value => .ok value
  | .error exception =>
    if handles exception then .error (.invalidCursorError message) else .error exception

/-- A result of a library, or the exception that it raises. -/
def orRaise {Value : Type} (exception : PyException) : Option Value → Except PyException Value
  | some value => .ok value
  | none => .error exception

/-- The digit 1 and the opening bracket, in UTF-8. -/
def oneByte : UInt8 := 49

def bracketByte : UInt8 := 91

/-- A number of more digits than `sys.get_int_max_str_digits()` stands in the bytes. -/
def LongNumber (raw : List UInt8) : Prop :=
  ∃ digits, digits <:+: raw ∧ 4300 < digits.length ∧ ∀ byte ∈ digits, 48 ≤ byte ∧ byte ≤ 57

/-- The number of opening brackets and braces. -/
def openings (raw : List UInt8) : Nat := raw.countP fun byte => byte == bracketByte || byte == 123

/-- The libraries with what they raise when they have no result.  `json.loads` gives up on
numbers that are too long, and on documents that are nested deeper than it can follow. -/
structure CursorRuntime extends CursorLibraries where
  /-- The exception of `token.encode("ascii")` or `urlsafe_b64decode`. -/
  base64Raises : String → PyException
  /-- The exception of `raw.decode("utf-8")` or `json.loads`. -/
  loadsRaises : List UInt8 → PyException
  nestingLimit : Nat
  base64_raises : ∀ token,
    base64Raises token = .unicodeEncodeError ∨ base64Raises token = .binasciiError
  loads_raises : ∀ raw, (loadsRaises raw).isPayloadError = true ∨
    (loadsRaises raw = .valueError ∧ LongNumber raw) ∨
    (loadsRaises raw = .recursionError ∧ nestingLimit < openings raw)
  loads_long : ∀ count, 4300 < count → loads (List.replicate count oneByte) = none ∧
    loadsRaises (List.replicate count oneByte) = .valueError
  loads_nested : ∀ count, nestingLimit < count →
    loads (List.replicate count bracketByte) = none ∧
      loadsRaises (List.replicate count bracketByte) = .recursionError

variable (runtime : CursorRuntime)

/-- The fields of the payload. -/
def decodeFields (fields : Dict) : Except PyException (Instant × Uuid) :=
  match Dict.get fields "created_at", Dict.get fields "id" with
  | some (.str createdRaw), some (.str idRaw) => do
      let createdAt ← caught PyException.isValueError "cursor created_at is not a valid datetime"
        (orRaise .valueError (runtime.fromisoformat createdRaw))
      let id ← caught PyException.isValueError "cursor id is not a valid UUID"
        (orRaise .valueError (Uuid.parse idRaw))
      return (createdAt, id)
  | _, _ => .error (.invalidCursorError "cursor missing required fields")

/-- `decode_cursor`, with what it raises. -/
def decodeCursorRaising (token : String) : Except PyException (Instant × Uuid) :=
  if token = "" then .error (.invalidCursorError "cursor must not be empty")
  else do
    let raw ← caught PyException.isBase64Error "cursor is not valid base64"
      (orRaise (runtime.base64Raises token) (runtime.urlsafeB64decode token))
    let payload ← caught PyException.isPayloadError "cursor payload is not valid JSON"
      (orRaise (runtime.loadsRaises raw) (runtime.loads raw))
    match payload with
    | .obj fields => decodeFields runtime fields
    | _ => .error (.invalidCursorError "cursor payload must be a JSON object")

/-- How a request ends because of its cursor, if it does: the route turns `InvalidCursorError`
into a failure, and anything else reaches `unhandled_exception_handler`. -/
def cursorFailure (invalid : String → HttpFailure) : Option String → Option HttpFailure
  | none => none
  | some token =>
    match decodeCursorRaising runtime token with
    | .ok _ => none
    | .error (.invalidCursorError detail) => some (invalid detail)
    | .error _ => some ⟨500, "Internal Server Error", none, none⟩

/-- `admin_list_users`.  With a cursor that can be decoded it goes on as before. -/
def answerUsers (createdAt : Uuid → Instant) (users : List Database.UserRow)
    (cursor : Option String) (limit : Int) : Except HttpFailure UserListPage :=
  match cursorFailure runtime
    (fun detail => ⟨400, detail, some "invalid_cursor", some "about:blank"⟩) cursor with
  | some failure => .error failure
  | none => adminListUsers runtime.toCursorLibraries createdAt users cursor limit

/-- `admin_list_audit_events`, in the same way. -/
def answerAuditEvents (createdAt : Uuid → Instant) (filters : AuditFilters)
    (events : List Database.AuditEventRow) (before : Option String) (limit : Int) :
    Except HttpFailure AuditLogRead :=
  match cursorFailure runtime (fun detail => ⟨400, detail, none, none⟩) before with
  | some failure => .error failure
  | none => adminListAuditEvents runtime.toCursorLibraries createdAt filters events before limit

/-! ## Exceptions that are handled -/

variable {exception : PyException}

section Handled

variable {runtime} {token : String} {raw : List UInt8}

/-- What the token encodes has no number that is too long, and not too many brackets. -/
def CursorRuntime.Moderate (runtime : CursorRuntime) (token : String) : Prop :=
  ∀ raw, runtime.urlsafeB64decode token = some raw →
    ¬ LongNumber raw ∧ openings raw ≤ runtime.nestingLimit

theorem CursorRuntime.Moderate.handled (moderate : runtime.Moderate token)
    (isRaw : runtime.urlsafeB64decode token = some raw) :
    (runtime.loadsRaises raw).isPayloadError = true := by
  rcases moderate raw isRaw with ⟨short, shallow⟩
  rcases runtime.loads_raises raw with handled | ⟨_, long⟩ | ⟨_, deep⟩
  · exact handled
  · exact absurd long short
  · exact absurd deep (Nat.not_lt.mpr shallow)

theorem caught_none {Value : Type} {handles : PyException → Bool}
    (isHandled : handles exception = true) (message : String) :
    caught handles message (orRaise exception (none : Option Value)) =
      .error (.invalidCursorError message) :=
  if_pos isHandled

/-- When the payload raises nothing else, the codec fails with its own error only. -/
theorem decodeCursorRaising_eq (handled : ∀ raw, runtime.urlsafeB64decode token = some raw →
      (runtime.loadsRaises raw).isPayloadError = true) :
    decodeCursorRaising runtime token =
      (decodeCursor runtime.toCursorLibraries token).mapError .invalidCursorError := by
  rw [decodeCursorRaising, decodeCursor]
  by_cases isEmpty : token = ""
  · rw [if_pos isEmpty, if_pos isEmpty]
    rfl
  rw [if_neg isEmpty, if_neg isEmpty]
  cases isRaw : runtime.urlsafeB64decode token with
  | none =>
    rcases runtime.base64_raises token with raises | raises <;> rw [raises] <;> rfl
  | some raw =>
    change ((caught _ _ (orRaise _ (runtime.loads raw))).bind _) = _
    dsimp only
    cases runtime.loads raw with
    | none =>
      rw [caught_none (handled raw isRaw)]
      rfl
    | some payload =>
      cases payload with
      | obj fields =>
        change decodeFields runtime fields = _
        rw [decodeFields]
        dsimp only
        cases Dict.get fields "created_at" with
        | none => rfl
        | some created =>
          cases created with
          | str createdRaw =>
            cases Dict.get fields "id" with
            | none => rfl
            | some id =>
              cases id with
              | str idRaw =>
                dsimp only
                cases runtime.fromisoformat createdRaw with
                | none => rfl
                | some createdAt =>
                  cases Uuid.parse idRaw with
                  | none | some => rfl
              | _ => rfl
          | _ => rfl
      | null | bool | int | float | str | arr => rfl

end Handled

section Escaping

variable {runtime} {token : String} {raw : List UInt8}

/-- The exception of a payload is the one of the codec when no handler names it. -/
theorem decodeCursorRaising_of_escape (given : token ≠ "")
    (isRaw : runtime.urlsafeB64decode token = some raw) (isPayload : runtime.loads raw = none)
    (escapes : (runtime.loadsRaises raw).isPayloadError = false) :
    decodeCursorRaising runtime token = .error (runtime.loadsRaises raw) := by
  rw [decodeCursorRaising, if_neg given, isRaw]
  change ((caught _ _ (orRaise _ (runtime.loads raw))).bind _) = _
  rw [isPayload, orRaise, caught, escapes]
  rfl

end Escaping

/-- A codec in unary, which reads nothing but the payloads that it writes. -/
def strictLibraries : CursorLibraries where
  __ := unaryLibraries
  loads raw := if raw.all (· == 0) then unaryLibraries.loads raw else none
  loads_dumps createdAt id := by
    rw [if_pos]
    · exact unaryLibraries.loads_dumps createdAt id
    · rw [List.all_eq_true]
      intro byte isByte
      rw [List.eq_of_mem_replicate isByte]
      rfl

/-- Its exceptions for a payload of digits, of brackets, and any other one. -/
def strictRaises (raw : List UInt8) : PyException :=
  if (∀ byte ∈ raw, byte = oneByte) ∧ 4300 < raw.length then .valueError
  else if (∀ byte ∈ raw, byte = bracketByte) ∧ 1000 < raw.length then .recursionError
  else .jsonDecodeError

theorem strict_raises (raw : List UInt8) : (strictRaises raw).isPayloadError = true ∨
    (strictRaises raw = .valueError ∧ LongNumber raw) ∨
    (strictRaises raw = .recursionError ∧ 1000 < openings raw) := by
  rw [strictRaises]
  split
  · rename_i isLong
    refine .inr (.inl ⟨rfl, raw, List.infix_rfl, isLong.2, ?_⟩)
    intro byte isByte
    rw [isLong.1 byte isByte]
    decide
  split
  · rename_i isNested
    refine .inr (.inr ⟨rfl, ?_⟩)
    have all : openings raw = raw.length := by
      rw [openings, List.countP_eq_length]
      intro byte isByte
      rw [isNested.1 byte isByte]
      rfl
    rw [all]
    exact isNested.2
  · exact .inl rfl

variable {count : Nat} {byte : UInt8}

theorem strict_loads_replicate (some : 0 < count) (other : byte ≠ 0) :
    strictLibraries.loads (List.replicate count byte) = none := by
  apply if_neg
  rw [List.all_eq_true]
  intro zero
  have isZero := zero byte (List.mem_replicate.mpr ⟨Nat.ne_of_gt some, rfl⟩)
  exact other (eq_of_beq isZero)

theorem strict_long (count : Nat) (tooLong : 4300 < count) :
    strictLibraries.loads (List.replicate count oneByte) = none ∧
      strictRaises (List.replicate count oneByte) = .valueError := by
  refine ⟨strict_loads_replicate (by omega) (by decide), if_pos ⟨?_, ?_⟩⟩
  · exact fun byte isByte => List.eq_of_mem_replicate isByte
  · rw [List.length_replicate]
    exact tooLong

theorem strict_nested (count : Nat) (tooDeep : 1000 < count) :
    strictLibraries.loads (List.replicate count bracketByte) = none ∧
      strictRaises (List.replicate count bracketByte) = .recursionError := by
  refine ⟨strict_loads_replicate (by omega) (by decide), ?_⟩
  have noDigits : ¬ ((∀ byte ∈ List.replicate count bracketByte, byte = oneByte) ∧
      4300 < (List.replicate count bracketByte).length) := by
    intro isLong
    have isDigit := isLong.1 bracketByte (List.mem_replicate.mpr ⟨by omega, rfl⟩)
    exact absurd isDigit (by decide)
  rw [strictRaises, if_neg noDigits, if_pos]
  refine ⟨fun byte isByte => List.eq_of_mem_replicate isByte, ?_⟩
  rw [List.length_replicate]
  exact tooDeep

def strictRuntime : CursorRuntime where
  toCursorLibraries := strictLibraries
  base64Raises _ := .binasciiError
  loadsRaises := strictRaises
  nestingLimit := 1000
  base64_raises _ := .inr rfl
  loads_raises := strict_raises
  loads_long := strict_long
  loads_nested := strict_nested

/-- The token of a payload of so many equal bytes. -/
def repeatedToken (count : Nat) (byte : UInt8) : String :=
  strictRuntime.urlsafeB64encode (List.replicate count byte)

theorem repeatedToken_ne_empty (count : Nat) (byte : UInt8) : repeatedToken count byte ≠ "" := by
  intro isEmpty
  have noChars := congrArg String.toList isEmpty
  change (String.ofList _).toList = _ at noChars
  simp [String.toList_ofList] at noChars

theorem long_escapes (tooLong : 4300 < count) :
    decodeCursorRaising strictRuntime (repeatedToken count oneByte) = .error .valueError := by
  have raises := strictRuntime.loads_long count tooLong
  rw [← raises.2]
  apply decodeCursorRaising_of_escape (repeatedToken_ne_empty _ _)
    (strictRuntime.decode_encode _) raises.1
  rw [raises.2]
  rfl

theorem nested_escapes (tooDeep : 1000 < count) :
    decodeCursorRaising strictRuntime (repeatedToken count bracketByte) =
      .error .recursionError := by
  have raises := strictRuntime.loads_nested count tooDeep
  rw [← raises.2]
  apply decodeCursorRaising_of_escape (repeatedToken_ne_empty _ _)
    (strictRuntime.decode_encode _) raises.1
  rw [raises.2]
  rfl

variable {runtime} in
/-- Whatever else leaves the codec is answered with 500. -/
theorem answerUsers_of_escape {token : String}
    (raises : decodeCursorRaising runtime token = .error exception)
    (escapes : ∀ detail, exception ≠ .invalidCursorError detail) (createdAt : Uuid → Instant)
    (users : List Database.UserRow) (limit : Int) :
    answerUsers runtime createdAt users (some token) limit =
      .error ⟨500, "Internal Server Error", none, none⟩ := by
  rw [answerUsers, cursorFailure, raises]
  cases exception with
  | invalidCursorError detail => exact absurd rfl (escapes detail)
  | _ => rfl

theorem moderate_of_short (short : count ≤ 1000) :
    strictRuntime.Moderate (repeatedToken count byte) := by
  intro raw isRaw
  have isRepeated : raw = List.replicate count byte :=
    Option.some.inj (isRaw.symm.trans (strictRuntime.decode_encode _))
  have isShort : raw.length ≤ 1000 := by
    rw [isRepeated, List.length_replicate]
    exact short
  refine ⟨?_, List.countP_le_length.trans isShort⟩
  rintro ⟨digits, isPart, isLong, _⟩
  have atMost := isPart.length_le
  omega

end StarterTemplate.Users
