import Mathlib.Data.List.Basic

/-!
# Redaction of log events

The redaction policy goes by key: values under strict keys are replaced, addresses under email
keys lose their local part but for its first letter, and mappings under a headers key are redacted
header by header.  The policy is written twice, as the structlog processor and as the filter of
the standard library's records.
-/

namespace StarterTemplate.Platform

/-- A value of the host language, as far as the logging code tells values apart. -/
inductive Value (Object : Type) where
  | null
  | int (value : Int)
  | str (text : String)
  | list (items : List (Value Object))
  | mapping (items : List (String × Value Object))
  | object (value : Object)

/-- `isinstance(value, Mapping)`. -/
def Value.isMapping {Object : Type} : Value Object → Bool
  | .mapping _ => true
  | _ => false

/-- A dictionary with text keys, in insertion order. -/
abbrev Mapping (Object : Type) := List (String × Value Object)

variable {Object : Type}

def redactStrictKeys : List String :=
  ["password", "password_hash", "hash", "token", "access_token", "refresh_token", "authorization",
    "cookie", "set-cookie", "secret", "api_key", "phone"]

def redactEmailKeys : List String := ["email", "to", "from", "recipient", "cc", "bcc"]

def redactHeaderNames : List String :=
  ["authorization", "cookie", "set-cookie", "proxy-authorization", "x-api-key", "x-auth-token"]

def headersKeys : List String := ["headers", "request.headers", "response.headers"]

def redactedPlaceholder : String := "***REDACTED***"

def safeEmailFallback : String := "***@***"

/-- The standard attributes of a record. -/
def stdlibRecordAttrs : List String :=
  ["args", "asctime", "created", "exc_info", "exc_text", "filename", "funcName", "levelname",
    "levelno", "lineno", "message", "module", "msecs", "msg", "name", "pathname", "process",
    "processName", "relativeCreated", "stack_info", "thread", "threadName", "taskName",
    "request_id", "trace_id"]

/-- An attribute that the filter leaves alone: a standard one, or one that starts with `_`. -/
def isOwnAttr (name : String) : Bool :=
  decide (name ∈ stdlibRecordAttrs) || name.toList.head? == some '_'

/-- `str.lower`, which leaves the headers keys as they are. -/
structure LowerCase where
  lower : String → String
  lower_headersKeys : ∀ key ∈ headersKeys, lower key = key

/-- The address is taken apart at its first `@`. -/
def redactEmail (addr : String) : String :=
  if '@' ∉ addr.toList then safeEmailFallback
  else
    match addr.toList.takeWhile (· != '@'), (addr.toList.dropWhile (· != '@')).tail with
    | first :: _, letter :: domain => String.ofList (first :: "***@".toList ++ letter :: domain)
    | _, _ => safeEmailFallback

/-- Only texts are masked. -/
def maskEmail : Value Object → Value Object
  | .str text => .str (redactEmail text)
  | value => value

/-- The rules for one key in lower case, with the keys whose values are replaced. -/
def redactUnder (replacedKeys : List String) (lowered : String) (value : Value Object) :
    Value Object :=
  if lowered ∈ replacedKeys then .str redactedPlaceholder
  else if lowered ∈ redactEmailKeys then maskEmail value
  else value

section Policy

variable (text : LowerCase)

def redactValueForKey (key : String) (value : Value Object) : Value Object :=
  redactUnder redactStrictKeys (text.lower key) value

def redactHeader (name : String) (value : Value Object) : Value Object :=
  redactUnder (redactHeaderNames ++ redactStrictKeys) (text.lower name) value

/-- A walk over the items of a dictionary that stores a new value under every key. -/
def rewrite (newValue : String → Value Object → Value Object) (items : Mapping Object) :
    Mapping Object :=
  items.map fun item => (item.1, newValue item.1 item.2)

def redactHeadersMapping (headers : Mapping Object) : Mapping Object :=
  rewrite (redactHeader text) headers

/-- Only mappings are redacted as headers. -/
def redactHeaders : Value Object → Value Object
  | .mapping headers => .mapping (redactHeadersMapping text headers)
  | value => value

/-- The body of the processor's walk. -/
def redactEventItem (key : String) (value : Value Object) : Value Object :=
  if key ∈ headersKeys ∨ text.lower key ∈ headersKeys then redactHeaders text value
  else redactValueForKey text key value

def piiRedactionProcessor (event : Mapping Object) : Mapping Object :=
  rewrite (redactEventItem text) event

/-- The body of both walks of the filter. -/
def redactRecordItem (key : String) (value : Value Object) : Value Object :=
  if text.lower key ∈ headersKeys ∧ value.isMapping then redactHeaders text value
  else redactValueForKey text key value

end Policy

/-- The arguments of a log call: a mapping, or positional ones. -/
inductive Arguments (Object : Type) where
  | mapping (items : Mapping Object)
  | positional (items : List (Value Object))

/-- A record of the standard library; `extra` holds the attributes that the caller added. -/
structure LogRecord (Object : Type) where
  name : String
  levelname : String
  msg : String
  args : Arguments Object
  extra : Mapping Object

def piiLogFilter (text : LowerCase) (record : LogRecord Object) : LogRecord Object :=
  { record with
    args :=
      match record.args with
      | .mapping items => .mapping (rewrite (redactRecordItem text) items)
      | .positional items => .positional items
    extra := rewrite
      (fun name value => if isOwnAttr name then value else redactRecordItem text name value)
      record.extra }

/-- Values under a key that the policy does not name are kept. -/
theorem redactRecordItem_of_unnamed {text : LowerCase} {key : String}
    (notHeaders : text.lower key ∉ headersKeys) (notStrict : text.lower key ∉ redactStrictKeys)
    (notEmail : text.lower key ∉ redactEmailKeys) (value : Value Object) :
    redactRecordItem text key value = value := by
  rw [redactRecordItem, if_neg (not_and_of_not_left _ notHeaders), redactValueForKey, redactUnder,
    if_neg notStrict, if_neg notEmail]

/-! ## The two walks agree -/

theorem headersKey_unredacted {key : String} (isHeaders : key ∈ headersKeys) :
    key ∉ redactStrictKeys ∧ key ∉ redactEmailKeys := by
  revert key
  decide

theorem isHeaders_iff (text : LowerCase) (key : String) :
    key ∈ headersKeys ∨ text.lower key ∈ headersKeys ↔ text.lower key ∈ headersKeys := by
  refine ⟨?_, .inr⟩
  rintro (isHeaders | isHeaders)
  · rw [text.lower_headersKeys key isHeaders]
    exact isHeaders
  · exact isHeaders

theorem redactRecordItem_eq (text : LowerCase) (key : String) (value : Value Object) :
    redactRecordItem text key value = redactEventItem text key value := by
  rw [redactRecordItem, redactEventItem, if_congr (isHeaders_iff text key) rfl rfl]
  by_cases isHeaders : text.lower key ∈ headersKeys
  · -- A headers key that holds something else is under none of the other rules.
    have unredacted := headersKey_unredacted isHeaders
    cases value <;>
      simp [Value.isMapping, redactHeaders, redactValueForKey, redactUnder, isHeaders, unredacted]
  · rw [if_neg isHeaders, if_neg (not_and_of_not_left _ isHeaders)]

/-- The filter redacts the mapping of a record as the processor redacts an event. -/
theorem args_piiLogFilter (text : LowerCase) {record : LogRecord Object} {event : Mapping Object}
    (carries : record.args = .mapping event) :
    (piiLogFilter text record).args = .mapping (piiRedactionProcessor text event) := by
  rw [piiLogFilter, carries, piiRedactionProcessor]
  simp only [rewrite, redactRecordItem_eq]

/-! ## What the policy hides -/

/-- The same keys, with related values under each. -/
def SameKeys (Related : String → Value Object → Value Object → Prop)
    (event other : Mapping Object) : Prop :=
  ∀ key, Option.Rel (Related key) (event.lookup key) (other.lookup key)

/-- The addresses differ at most between the first letter and the last `@`, and both have a
local part and a domain. -/
def SameOuterParts (address other : String) : Prop :=
  ∃ first middle otherMiddle domain, '@' ∉ domain ∧ domain ≠ [] ∧
    address.toList = first :: middle ++ '@' :: domain ∧
    other.toList = first :: otherMiddle ++ '@' :: domain

/-- The values under a key differ at most in what the policy names. -/
def Hidden (text : LowerCase) (key : String) (value other : Value Object) : Prop :=
  value = other ∨ text.lower key ∈ redactStrictKeys ∨
    text.lower key ∈ redactEmailKeys ∧
      ∃ address otherAddress, value = .str address ∧ other = .str otherAddress ∧
        SameOuterParts address otherAddress

/-- The same at the top level of an event, where headers are compared one by one. -/
def HiddenInEvent (text : LowerCase) (key : String) (value other : Value Object) : Prop :=
  Hidden text key value other ∨ text.lower key ∈ headersKeys ∧
    ∃ headers otherHeaders, value = .mapping headers ∧ other = .mapping otherHeaders ∧
      SameKeys (Hidden text) headers otherHeaders

/-- Equal values; of two mappings, the order of the items does not count. -/
def SameValue (value other : Value Object) : Prop :=
  value = other ∨ ∃ items otherItems, value = .mapping items ∧ other = .mapping otherItems ∧
    SameKeys (fun _ => Eq) items otherItems

/-- Every address under an email key has one `@`. -/
def PlainItems (text : LowerCase) (items : Mapping Object) : Prop :=
  ∀ key address, items.lookup key = some (.str address) → text.lower key ∈ redactEmailKeys →
    address.toList.count '@' ≤ 1

/-- The same at the top level of an event and in its headers. -/
def PlainAddresses (text : LowerCase) (event : Mapping Object) : Prop :=
  PlainItems text event ∧ ∀ key headers, event.lookup key = some (.mapping headers) →
    text.lower key ∈ headersKeys → PlainItems text headers

theorem lookup_rewrite (newValue : String → Value Object → Value Object) (items : Mapping Object)
    (key : String) : (rewrite newValue items).lookup key = (items.lookup key).map (newValue key) := by
  induction items with
  | nil => rfl
  | cons item rest ih =>
    rw [rewrite, List.map_cons, List.lookup_cons, List.lookup_cons]
    cases same : key == item.1 with
    | true => simp [eq_of_beq same]
    | false => exact ih

/-- Related values that are rewritten to related values, key by key. -/
theorem SameKeys.rewrite {Before After : String → Value Object → Value Object → Prop}
    {event other : Mapping Object} (same : SameKeys Before event other)
    (newValue : String → Value Object → Value Object)
    (rewritten : ∀ key value otherValue, event.lookup key = some value →
      other.lookup key = some otherValue → Before key value otherValue →
      After key (newValue key value) (newValue key otherValue)) :
    SameKeys After (rewrite newValue event) (rewrite newValue other) := by
  intro key
  rw [lookup_rewrite, lookup_rewrite]
  have related := same key
  cases found : event.lookup key with
  | none =>
    rw [found] at related
    cases otherFound : other.lookup key with
    | none => exact .none
    | some otherValue =>
      simp [otherFound] at related
  | some value =>
    rw [found] at related
    cases otherFound : other.lookup key with
    | none =>
      simp [otherFound] at related
    | some otherValue =>
      rw [otherFound] at related
      cases related with
      | some isRelated => exact .some (rewritten key value otherValue found otherFound isRelated)

/-- An address with one `@` keeps its first letter and its domain. -/
theorem redactEmail_of_parts {address : String} {first : Char} {middle domain : List Char}
    (parts : address.toList = first :: middle ++ '@' :: domain) (hasDomain : domain ≠ [])
    (plain : address.toList.count '@' ≤ 1) :
    redactEmail address = String.ofList (first :: "***@".toList ++ domain) := by
  have noneBefore : '@' ∉ first :: middle := by
    intro isBefore
    rw [parts, List.count_append, List.count_cons_self] at plain
    have atLeast := List.count_pos_iff.mpr isBefore
    omega
  have isLocal : ∀ letter ∈ first :: middle, (letter != '@') = true := by
    intro letter isLetter
    rw [bne_iff_ne]
    rintro rfl
    exact noneBefore isLetter
  have taken : address.toList.takeWhile (· != '@') = first :: middle := by
    rw [parts, List.takeWhile_append_of_pos isLocal]
    simp
  have dropped : address.toList.dropWhile (· != '@') = '@' :: domain := by
    rw [parts, List.dropWhile_append_of_pos isLocal]
    simp
  have hasAt : ¬ '@' ∉ address.toList := by
    rw [parts]
    simp
  rw [redactEmail, if_neg hasAt, taken, dropped, List.tail_cons]
  cases domain with
  | nil => contradiction
  | cons letter domain => rfl

/-- Values that differ only in what the policy names are redacted to the same value. -/
theorem redactUnder_eq {text : LowerCase} {key : String} {value other : Value Object}
    (hidden : Hidden text key value other) {replacedKeys : List String}
    (strict : redactStrictKeys ⊆ replacedKeys)
    (plain : ∀ address, value = .str address → text.lower key ∈ redactEmailKeys →
      address.toList.count '@' ≤ 1)
    (otherPlain : ∀ address, other = .str address → text.lower key ∈ redactEmailKeys →
      address.toList.count '@' ≤ 1) :
    redactUnder replacedKeys (text.lower key) value =
      redactUnder replacedKeys (text.lower key) other := by
  rcases hidden with isSame | isStrict | ⟨isEmail, address, otherAddress, isText, isOther, same⟩
  · rw [isSame]
  · rw [redactUnder, redactUnder, if_pos (strict isStrict), if_pos (strict isStrict)]
  · rcases same with ⟨first, middle, otherMiddle, domain, _, hasDomain, parts, otherParts⟩
    have masked : redactEmail address = redactEmail otherAddress := by
      rw [redactEmail_of_parts parts hasDomain (plain address isText isEmail),
        redactEmail_of_parts otherParts hasDomain (otherPlain otherAddress isOther isEmail)]
    simp only [isText, isOther, redactUnder, maskEmail, masked, if_pos isEmail]

theorem redactHeadersMapping_same {text : LowerCase} {headers other : Mapping Object}
    (same : SameKeys (Hidden text) headers other) (plain : PlainItems text headers)
    (otherPlain : PlainItems text other) :
    SameKeys (fun _ => Eq) (redactHeadersMapping text headers)
      (redactHeadersMapping text other) := by
  apply same.rewrite
  intro key value otherValue found otherFound hidden
  apply redactUnder_eq hidden (List.subset_append_right _ _)
  · rintro address rfl
    exact plain key address found
  · rintro address rfl
    exact otherPlain key address otherFound

theorem redactEventItem_same {text : LowerCase} {event other : Mapping Object} {key : String}
    {value otherValue : Value Object} (plain : PlainAddresses text event)
    (otherPlain : PlainAddresses text other) (found : event.lookup key = some value)
    (otherFound : other.lookup key = some otherValue)
    (hidden : HiddenInEvent text key value otherValue) :
    SameValue (redactEventItem text key value) (redactEventItem text key otherValue) := by
  rw [redactEventItem, redactEventItem, if_congr (isHeaders_iff text key) rfl rfl,
    if_congr (isHeaders_iff text key) rfl rfl]
  by_cases isHeaders : text.lower key ∈ headersKeys
  · rw [if_pos isHeaders, if_pos isHeaders]
    have unredacted := headersKey_unredacted isHeaders
    rcases hidden with (isSame | isStrict | ⟨isEmail, _⟩) | ⟨_, headers, others, rfl, rfl, same⟩
    · rw [isSame]
      exact .inl rfl
    · exact absurd isStrict unredacted.1
    · exact absurd isEmail unredacted.2
    · exact .inr ⟨_, _, rfl, rfl, redactHeadersMapping_same same
        (plain.2 key headers found isHeaders) (otherPlain.2 key others otherFound isHeaders)⟩
  rw [if_neg isHeaders, if_neg isHeaders]
  rcases hidden with hidden | ⟨isHeadersKey, _⟩
  · refine .inl (redactUnder_eq hidden (List.Subset.refl _) ?_ ?_)
    · rintro address rfl
      exact plain.1 key address found
    · rintro address rfl
      exact otherPlain.1 key address otherFound
  · exact absurd isHeadersKey isHeaders

/-- `str.lower` on texts of ASCII letters. -/
def asciiLower : LowerCase where
  lower text := String.ofList (text.toList.map Char.toLower)
  lower_headersKeys := by decide

/-- An event with one address. -/
def mailTo (address : String) : Mapping Empty := [("Email", .str address)]

theorem mailTo_hidden {address other : String} (same : SameOuterParts address other) :
    SameKeys (HiddenInEvent asciiLower) (mailTo address) (mailTo other) := by
  intro key
  cases isEmail : key == "Email" with
  | true =>
    rw [eq_of_beq isEmail]
    exact .some (.inl (.inr (.inr ⟨by decide, address, other, rfl, rfl, same⟩)))
  | false =>
    rw [mailTo, mailTo, List.lookup_cons, List.lookup_cons, isEmail]
    exact .none

theorem mailTo_plain {address : String} (plain : address.toList.count '@' ≤ 1) :
    PlainAddresses asciiLower (mailTo address) := by
  constructor
  · intro key found isFound _
    rw [mailTo, List.lookup_cons] at isFound
    split at isFound
    · cases isFound
      exact plain
    · contradiction
  intro key headers isFound _
  rw [mailTo, List.lookup_cons] at isFound
  split at isFound
  · cases isFound
  · contradiction

end StarterTemplate.Platform
