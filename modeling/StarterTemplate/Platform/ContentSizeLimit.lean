import Mathlib
import StarterTemplate.Library.Addresses
import StarterTemplate.Library.Uuid

/-!
# The limit on request bodies

`ContentSizeLimitMiddleware` looks at the first `Content-Length` of a request and, when there
is none, at its first `Transfer-Encoding`.  Against it stands the length that the framing
rules of HTTP/1.1 allow: a final chunked coding overrides the declared length, and the field
may be spread over several lines.
-/

namespace StarterTemplate.Platform

open Library

/-- Names, in lower case, and values, decoded from latin-1. -/
abbrev Headers := List (String × String)

/-! ## The middleware -/

/-- `_get_header`. -/
def getHeader (headers : Headers) (name : String) : Option String :=
  (headers.find? fun header => header.1 == name).map Prod.snd

/-- Decimal digits with single underscores between them; `ended` says that the text so far
ends in a digit. -/
def readDecimal : List Char → (value : Nat) → (ended : Bool) → Option Nat
  | [], value, true => some value
  | [], _, false => none
  | char :: rest, value, ended =>
    if char = '_' ∧ ended = true then readDecimal rest value false
    else
      match Uuid.decimalValue char with
      | some digit => readDecimal rest (10 * value + digit) true
      | none => none

/-- The digits after a sign. -/
def unsigned : List Char → List Char
  | '+' :: rest => rest
  | '-' :: rest => rest
  | text => text

/-- `int(text)`, `none` standing for the `ValueError`, also of more than 4300 digits. -/
def pyInt (text : String) : Option Int :=
  let body := (text.toList.dropWhile Uuid.isBlank).rdropWhile Uuid.isBlank
  if 4300 < ((unsigned body).filter (· ≠ '_')).length then none
  else (readDecimal (unsigned body) 0 false).map fun value : Nat =>
    if body.head? = some '-' then -(value : Int) else value

/-- `text.lower()`, as far as letters of `chunked` come out of it. -/
def lower (text : String) : List Char := text.toList.map Char.toLower

/-- What the middleware does with a request. -/
inductive Verdict where
  | passed
  | problem (status : Nat) (title detail : String)
  deriving DecidableEq

/-- `ContentSizeLimitMiddleware.__call__` for an HTTP request. -/
def contentSizeLimit (maxBytes : Int) (headers : Headers) : Verdict :=
  match getHeader headers "content-length" with
  | some contentLength =>
    match pyInt contentLength with
    | none => .problem 400 "Bad Request" "Invalid Content-Length header"
    | some size =>
      if maxBytes < size then .problem 413 "Content Too Large" "Request body too large"
      else .passed
  | none =>
    let transferEncoding := (getHeader headers "transfer-encoding").getD ""
    if "chunked".toList <:+: lower transferEncoding then
      .problem 411 "Length Required"
        "Requests using Transfer-Encoding: chunked must include a Content-Length header."
    else .passed

/-! ## Framing -/

/-- The values of all lines of a field. -/
def fieldValues (headers : Headers) (name : String) : List String :=
  (headers.filter fun header => header.1 == name).map Prod.snd

/-- Optional whitespace. -/
def isOws (char : Char) : Bool := char = ' ' || char = '\t'

/-- A field value of digits, as a number. -/
def lengthOf (value : String) : Option Nat :=
  let digits := (value.toList.dropWhile isOws).rdropWhile isOws
  if digits ≠ [] ∧ ∀ char ∈ digits, IsDecimal char then some (decimalValue digits) else none

/-- The length that the lines of `Content-Length` agree on. -/
def declaredLength (headers : Headers) : Option Nat :=
  match fieldValues headers "content-length" with
  | [] => none
  | first :: rest =>
    if rest.all (fun value => lengthOf value == lengthOf first) then lengthOf first else none

/-- The last transfer coding, over all lines of the field, is `chunked`. -/
def FinalChunked (headers : Headers) : Prop :=
  ∃ before after : List Char,
    [',', ' '].intercalate ((fieldValues headers "transfer-encoding").map lower) =
      before ++ "chunked".toList ++ after ∧
    (∀ char ∈ after, isOws char = true ∨ char = ',') ∧
    ((before.rdropWhile isOws).getLast?.all (· = ',')) = true

/-- The request may have a body of so many bytes. -/
def AllowsBody (headers : Headers) (size : Nat) : Prop :=
  FinalChunked headers ∨ (¬ FinalChunked headers ∧ size = (declaredLength headers).getD 0)

/-! ## Declared lengths -/

section Declared

variable {headers : Headers} {digits : List Char}

/-- A digit stands for its value, and is nothing else in a number. -/
theorem digit_plain : ∀ char ∈ "0123456789".toList,
    Uuid.isBlank char = false ∧ Uuid.decimalValue char = some (char.toNat - '0'.toNat) ∧
      char ≠ '_' ∧ char ≠ '+' ∧ char ≠ '-' := by
  decide

theorem readDecimal_digits (isDigits : ∀ char ∈ digits, IsDecimal char) (value : Nat) :
    readDecimal digits value true =
      some (digits.foldl (fun value digit => 10 * value + (digit.toNat - '0'.toNat)) value) := by
  induction digits generalizing value with
  | nil => rfl
  | cons char rest ih =>
    rcases digit_plain char (isDigits char (.head _)) with ⟨_, isValue, notBar, _⟩
    rw [readDecimal, if_neg fun both => notBar both.1, isValue]
    exact ih (fun other later => isDigits other (.tail _ later)) _

theorem dropWhile_dropWhile {first second : Char → Bool}
    (weaker : ∀ char, first char = true → second char = true) (text : List Char) :
    (text.dropWhile first).dropWhile second = text.dropWhile second := by
  induction text with
  | nil => rfl
  | cons char rest ih =>
    cases drops : first char with
    | false => rw [List.dropWhile_cons_of_neg (by simp [drops])]
    | true =>
      rw [List.dropWhile_cons_of_pos drops, List.dropWhile_cons_of_pos (weaker char drops), ih]

theorem isBlank_of_isOws (char : Char) (isOws : isOws char = true) : Uuid.isBlank char = true := by
  rw [Platform.isOws, Bool.or_eq_true, decide_eq_true_eq, decide_eq_true_eq] at isOws
  rcases isOws with isSpace | isTab
  · rw [isSpace]
    rfl
  · rw [isTab]
    rfl

/-- `int` strips what the framing strips. -/
theorem strip_eq {text : List Char} (isDigits : (text.dropWhile isOws).rdropWhile isOws = digits)
    (nonempty : digits ≠ []) (areDigits : ∀ char ∈ digits, IsDecimal char) :
    (text.dropWhile Uuid.isBlank).rdropWhile Uuid.isBlank = digits := by
  have plain : ∀ char ∈ digits, Uuid.isBlank char = false := fun char isChar =>
    (digit_plain char (areDigits char isChar)).1
  rw [← dropWhile_dropWhile isBlank_of_isOws]
  rcases isDigits ▸ List.rdropWhile_prefix isOws (text.dropWhile isOws) with ⟨after, isText⟩
  have starts : (text.dropWhile isOws).dropWhile Uuid.isBlank = text.dropWhile isOws := by
    rw [← isText]
    cases digits with
    | nil => exact absurd rfl nonempty
    | cons char rest =>
      rw [List.cons_append, List.dropWhile_cons_of_neg (by simp [plain char (.head _)])]
  rw [starts, List.rdropWhile, ← dropWhile_dropWhile isBlank_of_isOws]
  have reversed : ((text.dropWhile isOws).reverse.dropWhile isOws) = digits.reverse := by
    rw [← isDigits, List.rdropWhile, List.reverse_reverse]
  rw [reversed]
  exact Uuid.rdropWhile_of_all_not plain

/-- A valid length is read as the number that it is. -/
theorem pyInt_of_lengthOf {value : String} {length : Nat} {size : Int}
    (isLength : lengthOf value = some length) (isSize : pyInt value = some size) :
    size = length := by
  rw [lengthOf] at isLength
  split at isLength
  · rename_i valid
    rw [pyInt, strip_eq rfl valid.1 valid.2] at isSize
    generalize (value.toList.dropWhile isOws).rdropWhile isOws = digits at *
    cases digits with
    | nil => exact absurd rfl valid.1
    | cons char rest =>
      rcases digit_plain char (valid.2 char (.head _)) with
        ⟨_, isValue, notBar, notPlus, notMinus⟩
      have isUnsigned : unsigned (char :: rest) = char :: rest := by
        rw [unsigned]
        · intro other isPlus
          exact notPlus (List.cons.inj isPlus).1
        · intro other isMinus
          exact notMinus (List.cons.inj isMinus).1
      have isRead : readDecimal (char :: rest) 0 false = some (decimalValue (char :: rest)) := by
        rw [readDecimal, if_neg fun both => notBar both.1, isValue]
        exact readDecimal_digits
          (fun other later => valid.2 other (.tail _ later)) _
      rw [isUnsigned] at isSize
      split at isSize
      · cases isSize
      · rw [isRead, Option.map_some, List.head?_cons] at isSize
        rw [if_neg (by simpa using notMinus)] at isSize
        rw [← Option.some.inj isSize, ← Option.some.inj isLength]
  · cases isLength

theorem getHeader_eq (headers : Headers) (name : String) :
    getHeader headers name = (fieldValues headers name).head? := by
  rw [getHeader, fieldValues, List.head?_map, List.head?_filter]

end Declared

/-- A request whose last transfer coding is `chunked` has one line of that field, and no
`Content-Length` beside it. -/
def Unambiguous (headers : Headers) : Prop :=
  FinalChunked headers → (∃ value, fieldValues headers "transfer-encoding" = [value]) ∧
    fieldValues headers "content-length" = []

end StarterTemplate.Platform
