import StarterTemplate.Platform.Redaction

/-!
# Rejected input in production

A request that fails validation is answered with a problem document that names the violations,
in production without the rejected values.  In production the handler also logs the errors as
pydantic reports them, as one attribute of the record.
-/

namespace StarterTemplate.Platform

variable {Object : Type}

/-- One entry of `exc.errors()`: `details` holds what an entry has besides, such as `ctx`. -/
structure ErrorDetails (Object : Type) where
  type : String
  loc : List (Value Object)
  msg : String
  input : Option (Value Object)
  details : Mapping Object

/-- The entry as the dictionary it is. -/
def ErrorDetails.toMapping (error : ErrorDetails Object) : Mapping Object :=
  [("type", .str error.type), ("loc", .list error.loc), ("msg", .str error.msg)] ++
    (error.input.map fun input => ("input", input)).toList ++ error.details

structure Request where
  url : String
  path : String
  requestId : Option String

def pydanticErrorsToViolations (errors : List (ErrorDetails Object)) (includeInput : Bool) :
    List (Mapping Object) :=
  errors.map fun error =>
    [("loc", .list error.loc), ("type", .str error.type), ("msg", .str error.msg)] ++
      if includeInput then [("input", error.input.getD .null)] else []

/-- `payload[key] = value`. -/
def setItem (payload : Mapping Object) (item : String × Value Object) : Mapping Object :=
  if payload.any fun held => held.1 == item.1 then
    payload.map fun held => if held.1 == item.1 then item else held
  else payload ++ [item]

/-- The content of the problem document; `extra` holds the additional members. -/
def problemJson (title detail typeUri : String) (statusCode : Nat) (request : Request)
    (extra : Mapping Object) : Mapping Object :=
  let payload := extra.foldl setItem
    [("type", .str typeUri), ("title", .str title), ("status", .int statusCode),
      ("instance", .str request.url), ("detail", .str detail)]
  match request.requestId with
  | none => payload
  | some requestId =>
    if payload.any fun held => held.1 == "request_id" then payload
    else payload ++ [("request_id", .str requestId)]

/-- The response and the record that the handler logs. -/
structure Handled (Object : Type) where
  content : Mapping Object
  logged : Option (LogRecord Object)

def validationExceptionHandler (statusTitle : Nat → String) (environment : String)
    (request : Request) (errors : List (ErrorDetails Object)) : Handled Object :=
  let isProduction := environment == "production"
  let violations := pydanticErrorsToViolations errors (! isProduction)
  { content := problemJson (statusTitle 422)
      ("Validation failed: " ++ toString violations.length ++ " field(s)")
      "urn:problem:validation:failed" 422 request
      [("violations", .list (violations.map .mapping))]
    logged :=
      if isProduction then
        some
          { name := "api.error"
            levelname := "WARNING"
            msg := "Request validation failed"
            args := .positional []
            extra := [("path", .str request.path),
              ("validation_errors", .list (errors.map fun error => .mapping error.toMapping))] }
      else none }

/-- What `configure_logging` sets up, with the correlation ids that `RequestIdFilter` stamps on a
record and the text that a message has with its arguments. -/
structure Logging (Object : Type) where
  text : LowerCase
  level : Nat
  service : Mapping Object
  requestId : Option String
  traceId : Option String
  getMessage : String → Arguments Object → String

def optionalText (text : Option String) : Value Object := (text.map .str).getD .null

/-- `JsonFormatter.format`: the payload without its timestamp. -/
def formatPayload (logging : Logging Object) (record : LogRecord Object) : Mapping Object :=
  (record.extra.filter fun item => ! isOwnAttr item.1).foldl setItem
    [("level", .str record.levelname), ("logger", .str record.name),
      ("message", .str (logging.getMessage record.msg record.args)),
      ("request_id", optionalText logging.requestId),
      ("trace_id", optionalText logging.traceId), ("service", .mapping logging.service)]

/-- `logging.WARNING`. -/
def warningLevel : Nat := 30

/-- What the logger writes for a warning: nothing below the configured level. -/
def emitWarning (logging : Logging Object) (logged : Option (LogRecord Object)) :
    Option (Mapping Object) :=
  if warningLevel < logging.level then none
  else logged.map fun record => formatPayload logging (piiLogFilter logging.text record)

/-- Equal entries but for the rejected values. -/
def SameButInput (error other : ErrorDetails Object) : Prop :=
  error.type = other.type ∧ error.loc = other.loc ∧ error.msg = other.msg ∧
    error.input.isSome = other.input.isSome ∧ error.details = other.details

theorem violations_same {errors others : List (ErrorDetails Object)}
    (same : List.Forall₂ SameButInput errors others) :
    pydanticErrorsToViolations errors false = pydanticErrorsToViolations others false := by
  induction same with
  | nil => rfl
  | cons sameError _ ih =>
    rcases sameError with ⟨sameType, sameLoc, sameMsg, _⟩
    simp only [pydanticErrorsToViolations, Bool.false_eq_true, if_false] at ih ⊢
    rw [List.map_cons, List.map_cons, ih, sameType, sameLoc, sameMsg]

/-- In production the response never depends on the rejected values. -/
theorem content_same (statusTitle : Nat → String) (request : Request)
    {errors others : List (ErrorDetails Object)}
    (same : List.Forall₂ SameButInput errors others) :
    (validationExceptionHandler statusTitle "production" request errors).content =
      (validationExceptionHandler statusTitle "production" request others).content := by
  have violations := violations_same same
  simp only [validationExceptionHandler, beq_self_eq_true, Bool.not_true, violations]

/-- A body whose password is too short. -/
def shortPassword (password : String) : ErrorDetails Empty where
  type := "string_too_short"
  loc := [.str "body", .str "password"]
  msg := "String should have at least 12 characters"
  input := some (.str password)
  details := []

/-- A logger with the given level. -/
def loggingAt (level : Nat) : Logging Empty where
  text := asciiLower
  level := level
  service := []
  requestId := none
  traceId := none
  getMessage msg _ := msg

/-- A request to register. -/
def registerRequest : Request := ⟨"https://localhost/auth/register", "/auth/register", none⟩

theorem shortPassword_same (password other : String) :
    List.Forall₂ SameButInput [shortPassword password] [shortPassword other] :=
  .cons ⟨rfl, rfl, rfl, rfl, rfl⟩ .nil

theorem emitWarning_shortPassword (password : String) :
    emitWarning (loggingAt 20)
        (validationExceptionHandler (fun _ => "") "production" registerRequest
          [shortPassword password]).logged =
      some [("level", .str "WARNING"), ("logger", .str "api.error"),
        ("message", .str "Request validation failed"), ("request_id", .null), ("trace_id", .null),
        ("service", .mapping []), ("path", .str "/auth/register"),
        ("validation_errors", .list [.mapping (shortPassword password).toMapping])] := by
  have callerAttrs : isOwnAttr "path" = false ∧ isOwnAttr "validation_errors" = false := by decide
  -- Neither name is a key of the policy, so the filter leaves both values as they are.
  have pathKept : ∀ value : Value Empty, redactRecordItem asciiLower "path" value = value :=
    redactRecordItem_of_unnamed (by decide) (by decide) (by decide)
  have errorsKept : ∀ value : Value Empty,
      redactRecordItem asciiLower "validation_errors" value = value :=
    redactRecordItem_of_unnamed (by decide) (by decide) (by decide)
  simp [emitWarning, warningLevel, loggingAt, validationExceptionHandler, piiLogFilter, rewrite,
    callerAttrs, pathKept, errorsKept, formatPayload, setItem, optionalText, registerRequest]

end StarterTemplate.Platform
