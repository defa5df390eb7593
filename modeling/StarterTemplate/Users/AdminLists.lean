import Mathlib.Data.Prod.Lex
import StarterTemplate.Database.Tables
import StarterTemplate.Library.Keyset
import StarterTemplate.Library.Texts

/-!
# The paginated lists of the administration

`GET /admin/users` and `GET /admin/audit-log`, with the cursor codec that both features
have.  A page is a query by `(created_at, id)`, ascending for the users and descending for
the audit events, and its cursor is the place of its last row.  The column `created_at` is a
function of the id, since it never changes.
-/

namespace StarterTemplate.Users

open Library Database Keyset

/-! ## The cursor -/

/-- What the codec takes from its libraries: `isoformat`, JSON in UTF-8, and base64. -/
structure CursorLibraries where
  isoformat : Instant → String
  fromisoformat : String → Option Instant
  fromisoformat_isoformat : ∀ moment, fromisoformat (isoformat moment) = some moment
  dumps : Json → List UInt8
  loads : List UInt8 → Option Json
  loads_dumps : ∀ createdAt id : String,
    loads (dumps (.obj [("created_at", .str createdAt), ("id", .str id)])) =
      some (.obj [("created_at", .str createdAt), ("id", .str id)])
  urlsafeB64encode : List UInt8 → String
  urlsafeB64decode : String → Option (List UInt8)
  decode_encode : ∀ bytes, urlsafeB64decode (urlsafeB64encode bytes) = some bytes
  encode_ne_empty : ∀ payload, urlsafeB64encode (dumps payload) ≠ ""

variable (libraries : CursorLibraries)

/-- `encode_cursor`. -/
def encodeCursor (createdAt : Instant) (id : Uuid) : String :=
  libraries.urlsafeB64encode (libraries.dumps
    (.obj [("created_at", .str (libraries.isoformat createdAt)), ("id", .str id.str)]))

/-- `decode_cursor`, with the text of `InvalidCursorError`. -/
def decodeCursor (token : String) : Except String (Instant × Uuid) :=
  if token = "" then .error "cursor must not be empty"
  else
    match libraries.urlsafeB64decode token with
    | none => .error "cursor is not valid base64"
    | some raw =>
      match libraries.loads raw with
      | none => .error "cursor payload is not valid JSON"
      | some (.obj payload) =>
        match Dict.get payload "created_at", Dict.get payload "id" with
        | some (.str createdRaw), some (.str idRaw) =>
          match libraries.fromisoformat createdRaw with
          | none => .error "cursor created_at is not a valid datetime"
          | some createdAt =>
            match Uuid.parse idRaw with
            | none => .error "cursor id is not a valid UUID"
            | some id => .ok (createdAt, id)
        | _, _ => .error "cursor missing required fields"
      | some _ => .error "cursor payload must be a JSON object"

theorem decodeCursor_encodeCursor (createdAt : Instant) (id : Uuid) :
    decodeCursor libraries (encodeCursor libraries createdAt id) = .ok (createdAt, id) := by
  have fields : Dict.get [("created_at", .str (libraries.isoformat createdAt)),
        ("id", .str id.str)] "created_at" = some (.str (libraries.isoformat createdAt)) ∧
      Dict.get [("created_at", .str (libraries.isoformat createdAt)), ("id", .str id.str)] "id" =
        some (.str id.str) := ⟨rfl, rfl⟩
  rw [decodeCursor, encodeCursor, if_neg (libraries.encode_ne_empty _)]
  simp only [libraries.decode_encode, libraries.loads_dumps, fields,
    libraries.fromisoformat_isoformat, Uuid.parse_str]

/-- The cursor of a request, if it has one. -/
def decodeOptional : Option String → Except String (Option (Instant × Uuid))
  | none => .ok none
  | some token => (decodeCursor libraries token).map some

/-! ## Places -/

theorem int_injective : Function.Injective Uuid.int := by
  intro left right same
  cases left
  cases right
  cases same
  rfl

instance : LinearOrder Uuid := LinearOrder.lift' Uuid.int int_injective

/-- A row value `(created_at, id)`, compared lexicographically. -/
abbrev Place := Lex (Instant × Uuid)

/-- The place of a row. -/
def placeOf (createdAt : Uuid → Instant) (id : Uuid) : Place := toLex (createdAt id, id)

theorem placeOf_injective (createdAt : Uuid → Instant) :
    Function.Injective (placeOf createdAt) := by
  intro left right same
  exact congrArg (fun place : Place => (ofLex place).2) same

/-! ## The users -/

/-- How a request is refused. -/
structure HttpFailure where
  status : Nat
  detail : String
  code : Option String
  typeUri : Option String

/-- `UserPublic`. -/
structure UserPublic where
  id : Uuid
  email : String
  isActive : Bool
  isVerified : Bool
  authzVersion : Int
  createdAt : Instant
  updatedAt : Instant

/-- `UserListPage`. -/
structure UserListPage where
  items : List UserPublic
  count : Nat
  limit : Int
  nextCursor : Option String

/-- The limit of both use cases. -/
def boundedLimit (limit : Int) : Int := max 1 (min limit 500)

section Lists

variable (createdAt : Uuid → Instant)

/-- `UserPublic.model_validate`. -/
def publicUser (user : UserRow) : UserPublic :=
  ⟨user.id, user.email, user.isActive, user.isVerified, user.authzVersion, createdAt user.id,
    user.updatedAt⟩

/-- `list_paginated`. -/
def listPaginated (users : List UserRow) (cursor : Option (Instant × Uuid)) (limit : Int) :
    List UserRow :=
  ((users.filter fun user =>
      match cursor with
      | none => true
      | some last => decide (toLex last < placeOf createdAt user.id)).insertionSort
    fun left right => placeOf createdAt left.id ≤ placeOf createdAt right.id).take limit.toNat

/-- `admin_list_users`, with `ListUsers.execute`. -/
def adminListUsers (users : List UserRow) (cursor : Option String) (limit : Int) :
    Except HttpFailure UserListPage :=
  match decodeOptional libraries cursor with
  | .error detail => .error ⟨400, detail, some "invalid_cursor", some "about:blank"⟩
  | .ok decoded =>
    let found := listPaginated createdAt users decoded (boundedLimit limit)
    let items := found.map (publicUser createdAt)
    .ok
      { items := items
        count := items.length
        limit := limit
        nextCursor := if (items.length : Int) = limit then found.getLast?.map fun last =>
          encodeCursor libraries (createdAt last.id) last.id else none }

/-! ## The audit log -/

/-- The filters of the audit log. -/
structure AuditFilters where
  userId : Option Uuid
  eventType : Option String
  since : Option Instant

/-- `AuditEventRead`. -/
structure AuditEventRead where
  id : Uuid
  userId : Option Uuid
  eventType : String
  metadata : Dict
  createdAt : Instant

/-- `AuditLogRead`. -/
structure AuditLogRead where
  items : List AuditEventRead
  count : Nat
  limit : Int
  nextBefore : Option String

/-- The `WHERE` clauses of the filters that are given. -/
def AuditFilters.matches (filters : AuditFilters) (event : AuditEventRow) : Bool :=
  filters.userId.all (fun userId => event.userId == some userId) &&
    filters.eventType.all (fun eventType => event.eventType == eventType) &&
    filters.since.all fun since => decide (since ≤ createdAt event.id)

/-- `AuditEventRead.model_validate`. -/
def readEvent (event : AuditEventRow) : AuditEventRead :=
  ⟨event.id, event.userId, event.eventType, event.metadata, createdAt event.id⟩

/-- `list_audit_events`. -/
def listAuditEvents (filters : AuditFilters) (events : List AuditEventRow)
    (before : Option (Instant × Uuid)) (limit : Int) : List AuditEventRow :=
  ((events.filter fun event => filters.matches createdAt event &&
      match before with
      | none => true
      | some last => decide (placeOf createdAt event.id < toLex last)).insertionSort
    fun left right => placeOf createdAt right.id ≤ placeOf createdAt left.id).take limit.toNat

/-- `admin_list_audit_events`, with `ListAuditEvents.execute`. -/
def adminListAuditEvents (filters : AuditFilters) (events : List AuditEventRow)
    (before : Option String) (limit : Int) : Except HttpFailure AuditLogRead :=
  match decodeOptional libraries before with
  | .error detail => .error ⟨400, detail, none, none⟩
  | .ok decoded =>
    let found := listAuditEvents createdAt filters events decoded (boundedLimit limit)
    let items := found.map (readEvent createdAt)
    .ok
      { items := items
        count := items.length
        limit := limit
        nextBefore := if (items.length : Int) = limit then found.getLast?.map fun tail =>
          encodeCursor libraries (createdAt tail.id) tail.id else none }

/-! ## Following the cursors -/

variable (limit : Int) (database : Nat → Table Row)

/-- A request for users, on the database of that moment. -/
def fetchUsers (request : Nat) (cursor : Option String) :
    Except HttpFailure (List UserPublic × Option String) :=
  (adminListUsers libraries createdAt (tables (database request) .user) cursor limit).map
    fun page => (page.items, page.nextCursor)

/-- A request for audit events, on the database of that moment. -/
def fetchAuditEvents (filters : AuditFilters) (request : Nat) (before : Option String) :
    Except HttpFailure (List AuditEventRead × Option String) :=
  (adminListAuditEvents libraries createdAt filters (tables (database request) .auditEvent) before
    limit).map fun page => (page.items, page.nextBefore)

/-- The token of a cursor. -/
def placeToken (place : Place) : String :=
  encodeCursor libraries (ofLex place).1 (ofLex place).2

theorem decodeOptional_placeToken (cursor : Option Place) :
    decodeOptional libraries (cursor.map (placeToken libraries)) = .ok (cursor.map ofLex) := by
  cases cursor with
  | none => rfl
  | some place =>
    simp only [Option.map_some, decodeOptional, placeToken, decodeCursor_encodeCursor]
    rfl

theorem boundedLimit_eq {limit : Int} (atLeast : 1 ≤ limit) (atMost : limit ≤ 500) :
    boundedLimit limit = limit := by
  rw [boundedLimit]
  omega

variable {limit}

theorem length_eq_limit (atLeast : 1 ≤ limit) (length : Nat) :
    (length : Int) = limit ↔ length = limit.toNat := by
  omega

/-- A request for users selects them by their places. -/
theorem fetchUsers_eq (atLeast : 1 ≤ limit) (atMost : limit ≤ 500) (request : Nat)
    (cursor : Option Place) :
    fetchUsers libraries createdAt limit database request (cursor.map (placeToken libraries)) =
      let found := select (fun user => placeOf createdAt user.id) limit.toNat cursor
        (tables (database request) .user)
      .ok (found.map (publicUser createdAt),
        if found.length = limit.toNat then
          found.getLast?.map fun last => placeToken libraries (placeOf createdAt last.id)
        else none) := by
  have selected : listPaginated createdAt (tables (database request) .user) (cursor.map ofLex)
      limit = select (fun user => placeOf createdAt user.id) limit.toNat cursor
        (tables (database request) .user) := by
    cases cursor <;> rfl
  rw [fetchUsers, adminListUsers, decodeOptional_placeToken]
  simp only [boundedLimit_eq atLeast atMost, selected, List.length_map,
    length_eq_limit atLeast]
  rfl

/-- A request for audit events selects the matching ones by their places, downwards. -/
theorem fetchAuditEvents_eq (filters : AuditFilters) (atLeast : 1 ≤ limit) (atMost : limit ≤ 500)
    (request : Nat) (cursor : Option Placeᵒᵈ) :
    fetchAuditEvents libraries createdAt limit database filters request
        (cursor.map fun place => placeToken libraries (OrderDual.ofDual place)) =
      let found := select (fun event => OrderDual.toDual (placeOf createdAt event.id)) limit.toNat
        cursor ((tables (database request) .auditEvent).filter (filters.matches createdAt))
      .ok (found.map (readEvent createdAt),
        if found.length = limit.toNat then
          found.getLast?.map fun tail => placeToken libraries (placeOf createdAt tail.id)
        else none) := by
  have selected : listAuditEvents createdAt filters (tables (database request) .auditEvent)
      ((cursor.map OrderDual.ofDual).map ofLex) limit =
        select (fun event => OrderDual.toDual (placeOf createdAt event.id)) limit.toNat cursor
          ((tables (database request) .auditEvent).filter (filters.matches createdAt)) := by
    rw [listAuditEvents, select, List.filter_filter]
    congr 2
    apply List.filter_congr
    intro event _
    rw [Bool.and_comm]
    cases cursor <;> rfl
  have decoded := decodeOptional_placeToken libraries (cursor.map OrderDual.ofDual)
  rw [Option.map_map] at decoded
  rw [fetchAuditEvents, adminListAuditEvents]
  simp only [Function.comp_def] at decoded
  rw [decoded]
  simp only [boundedLimit_eq atLeast atMost, selected, List.length_map,
    length_eq_limit atLeast]
  rfl

/-- Rows with different places have different ids. -/
theorem nodup_ids {Item : Type} {items : List Item} {id : Item → Uuid} {placed : Item → Place}
    (areRows : ∀ item ∈ items, placed item = placeOf createdAt (id item))
    (distinct : (items.map placed).Nodup) : (items.map id).Nodup := by
  rw [List.map_congr_left areRows] at distinct
  apply List.Nodup.of_map (placeOf createdAt)
  rw [List.map_map]
  exact distinct

theorem nodup_places (database : Table Row) (kind : Kind) :
    ((tables database kind).map fun record => placeOf createdAt (kind.id record)).Nodup := by
  have mapped := (nodup_tables database kind).map (placeOf_injective createdAt)
  rw [List.map_map] at mapped
  exact mapped

end Lists

/-- Between two requests no user and no audit event goes away, and the columns that the
filters compare stay as they are. -/
structure KeepsRows (database : Nat → Table Row) : Prop where
  users : ∀ request, ∀ user ∈ tables (database request) .user,
    ∃ later ∈ tables (database (request + 1)) .user, later.id = user.id
  events : ∀ request, ∀ event ∈ tables (database request) .auditEvent,
    ∃ later ∈ tables (database (request + 1)) .auditEvent,
      later.id = event.id ∧ later.userId = event.userId ∧ later.eventType = event.eventType

/-- The users and audit events that there ever are have these ids. -/
structure WithinIds (database : Nat → Table Row) (ids : List Uuid) : Prop where
  users : ∀ request, ∀ user ∈ tables (database request) .user, user.id ∈ ids
  events : ∀ request, ∀ event ∈ tables (database request) .auditEvent, event.id ∈ ids

/-- The place of a listed user. -/
def UserPublic.place (item : UserPublic) : Place := toLex (item.createdAt, item.id)

/-- The place of a listed audit event. -/
def AuditEventRead.place (item : AuditEventRead) : Place := toLex (item.createdAt, item.id)

/-- The place of a listed audit event, in the order of the list. -/
def AuditEventRead.placeDown (item : AuditEventRead) : Placeᵒᵈ := OrderDual.toDual item.place

section Following

variable {createdAt : Uuid → Instant} {database : Nat → Table Row} {limit : Int}
variable {ids : List Uuid} {fuel : Nat}

theorem users_followed (atLeast : 1 ≤ limit) (atMost : limit ≤ 500) (kept : KeepsRows database)
    (within : WithinIds database ids) (enough : ids.length < fuel) :
    ∃ items, follow (fetchUsers libraries createdAt limit database) fuel 0 none =
        .finished items ∧
      (items.map UserPublic.place).Pairwise (· < ·) ∧ (items.map UserPublic.id).Nodup ∧
      (∀ item ∈ items, ∃ request, ∃ user ∈ tables (database request) .user,
        item = publicUser createdAt user) ∧
      ∀ user ∈ tables (database 0) .user, ∃ item ∈ items, item.id = user.id := by
  have viewed : ∀ user, (publicUser createdAt user).place = placeOf createdAt user.id := fun _ => rfl
  have distinct : ∀ request, ((tables (database request) .user).map
      fun user => placeOf createdAt user.id).Nodup :=
    fun request => nodup_places createdAt (database request) .user
  have grows : ∀ request, ∀ user ∈ tables (database request) .user,
      ∃ later ∈ tables (database (request + 1)) .user,
        placeOf createdAt later.id = placeOf createdAt user.id := by
    intro request user isUser
    rcases kept.users request user isUser with ⟨later, isLater, sameId⟩
    exact ⟨later, isLater, by rw [sameId]⟩
  have bounded : ∀ request, ∀ user ∈ tables (database request) .user,
      placeOf createdAt user.id ∈ ids.map (placeOf createdAt) :=
    fun request user isUser => List.mem_map_of_mem (within.users request user isUser)
  rcases follow_rows viewed (fetchUsers_eq libraries createdAt database atLeast atMost)
      (by omega) distinct grows bounded (by rwa [List.length_map]) with
    ⟨items, followed, sorted, areRows, areListed⟩
  have placed : ∀ item ∈ items, item.place = placeOf createdAt item.id := by
    intro item listed
    rcases areRows item listed with ⟨request, user, isUser, rfl⟩
    rfl
  refine ⟨items, followed, sorted, nodup_ids createdAt placed sorted.nodup, areRows, ?_⟩
  intro user isUser
  rcases List.mem_map.mp (areListed user isUser) with ⟨item, listed, samePlace⟩
  rw [placed item listed] at samePlace
  exact ⟨item, listed, placeOf_injective createdAt samePlace⟩

theorem events_followed (filters : AuditFilters) (atLeast : 1 ≤ limit) (atMost : limit ≤ 500)
    (kept : KeepsRows database) (within : WithinIds database ids) (enough : ids.length < fuel) :
    ∃ items, follow (fetchAuditEvents libraries createdAt limit database filters) fuel 0 none =
        .finished items ∧
      (items.map AuditEventRead.place).Pairwise (· > ·) ∧
      (items.map AuditEventRead.id).Nodup ∧
      (∀ item ∈ items, ∃ request, ∃ event ∈ tables (database request) .auditEvent,
        filters.matches createdAt event = true ∧ item = readEvent createdAt event) ∧
      ∀ event ∈ tables (database 0) .auditEvent, filters.matches createdAt event = true →
        ∃ item ∈ items, item.id = event.id := by
  have viewed : ∀ event, (readEvent createdAt event).placeDown =
      OrderDual.toDual (placeOf createdAt event.id) := fun _ => rfl
  have distinct : ∀ request, (((tables (database request) .auditEvent).filter
      (filters.matches createdAt)).map
        fun event => OrderDual.toDual (placeOf createdAt event.id)).Nodup := by
    intro request
    have places := nodup_places createdAt (database request) .auditEvent
    exact places.sublist (List.filter_sublist.map _)
  have grows : ∀ request, ∀ event ∈ (tables (database request) .auditEvent).filter
      (filters.matches createdAt), ∃ later ∈ (tables (database (request + 1)) .auditEvent).filter
        (filters.matches createdAt), OrderDual.toDual (placeOf createdAt later.id) =
          OrderDual.toDual (placeOf createdAt event.id) := by
    intro request event isEvent
    rcases List.mem_filter.mp isEvent with ⟨isRow, isMatch⟩
    rcases kept.events request event isRow with ⟨later, isLater, sameId, sameUser, sameType⟩
    refine ⟨later, List.mem_filter.mpr ⟨isLater, ?_⟩, by rw [sameId]⟩
    rwa [AuditFilters.matches, sameId, sameUser, sameType]
  have bounded : ∀ request, ∀ event ∈ (tables (database request) .auditEvent).filter
      (filters.matches createdAt), OrderDual.toDual (placeOf createdAt event.id) ∈
        ids.map fun id => OrderDual.toDual (placeOf createdAt id) := by
    intro request event isEvent
    exact List.mem_map_of_mem (within.events request event (List.mem_of_mem_filter isEvent))
  rcases follow_rows viewed
      (fetchAuditEvents_eq libraries createdAt database filters atLeast atMost)
      (by omega) distinct grows bounded (by rwa [List.length_map]) with
    ⟨items, followed, sorted, areRows, areListed⟩
  have placed : ∀ item ∈ items, item.place = placeOf createdAt item.id := by
    intro item listed
    rcases areRows item listed with ⟨request, event, isEvent, rfl⟩
    rfl
  have downwards : (items.map AuditEventRead.place).Pairwise (· > ·) := by
    exact sorted
  refine ⟨items, followed, downwards, nodup_ids createdAt placed (downwards.imp ne_of_gt), ?_, ?_⟩
  · intro item listed
    rcases areRows item listed with ⟨request, event, isEvent, isView⟩
    rcases List.mem_filter.mp isEvent with ⟨isRow, isMatch⟩
    exact ⟨request, event, isRow, isMatch, isView⟩
  intro event isRow isMatch
  have isEvent := List.mem_filter.mpr ⟨isRow, isMatch⟩
  rcases List.mem_map.mp (areListed event isEvent) with ⟨item, listed, samePlace⟩
  have sameRow : placeOf createdAt item.id = placeOf createdAt event.id :=
    (placed item listed).symm.trans samePlace
  exact ⟨item, listed, placeOf_injective createdAt sameRow⟩

end Following

/-- Whatever is inserted between the requests, following the cursors of either list ends, and
lists in order and once every row that there was before the first request. -/
theorem pagination_visits_rows (userCreated eventCreated : Uuid → Instant)
    (filters : AuditFilters) (database : Nat → Table Row) (limit : Int) (atLeast : 1 ≤ limit)
    (atMost : limit ≤ 500) (kept : KeepsRows database) (ids : List Uuid)
    (within : WithinIds database ids) (fuel : Nat) (enough : ids.length < fuel) :
    (∃ items, follow (fetchUsers libraries userCreated limit database) fuel 0 none =
        .finished items ∧
      (items.map UserPublic.place).Pairwise (· < ·) ∧ (items.map UserPublic.id).Nodup ∧
      (∀ item ∈ items, ∃ request, ∃ user ∈ tables (database request) .user,
        item = publicUser userCreated user) ∧
      ∀ user ∈ tables (database 0) .user, ∃ item ∈ items, item.id = user.id) ∧
    ∃ items, follow (fetchAuditEvents libraries eventCreated limit database filters) fuel 0 none =
        .finished items ∧
      (items.map AuditEventRead.place).Pairwise (· > ·) ∧
      (items.map AuditEventRead.id).Nodup ∧
      (∀ item ∈ items, ∃ request, ∃ event ∈ tables (database request) .auditEvent,
        filters.matches eventCreated event = true ∧ item = readEvent eventCreated event) ∧
      ∀ event ∈ tables (database 0) .auditEvent, filters.matches eventCreated event = true →
        ∃ item ∈ items, item.id = event.id :=
  ⟨users_followed libraries atLeast atMost kept within enough,
    events_followed libraries filters atLeast atMost kept within enough⟩

/-- A codec in unary. -/
def unaryLibraries : CursorLibraries where
  isoformat moment := String.ofList (List.replicate (Encodable.encode moment) '0')
  fromisoformat text := Encodable.decode text.toList.length
  fromisoformat_isoformat := by
    intro moment
    rw [String.toList_ofList, List.length_replicate, Encodable.encodek]
  dumps
    | .obj [(_, .str createdAt), (_, .str id)] =>
      List.replicate (Nat.pair (textNumber createdAt) (textNumber id)) 0
    | _ => []
  loads bytes := some (.obj [("created_at", .str (numberText (Nat.unpair bytes.length).1)),
    ("id", .str (numberText (Nat.unpair bytes.length).2))])
  loads_dumps := by
    intro createdAt id
    simp only [List.length_replicate, Nat.unpair_pair, numberText_textNumber]
  urlsafeB64encode bytes :=
    String.ofList ('=' :: List.replicate (Encodable.encode (bytes.map UInt8.toNat)) '=')
  urlsafeB64decode text :=
    (Encodable.decode (text.toList.length - 1) : Option (List Nat)).map (·.map UInt8.ofNat)
  decode_encode := by
    intro bytes
    rw [String.toList_ofList, List.length_cons, List.length_replicate, Nat.add_sub_cancel,
      Encodable.encodek, Option.map_some, List.map_map]
    exact congrArg some ((List.map_congr_left fun byte _ => UInt8.ofNat_toNat).trans
      (List.map_id' bytes))
  encode_ne_empty := by
    intro payload isEmpty
    have noChars := congrArg String.toList isEmpty
    simp [String.toList_ofList] at noChars

/-- Two accounts, one of which has logged in. -/
def firstRows : List Row :=
  [.user ⟨2, "b@x", true, true, false, 1, 0, none⟩,
    .user ⟨1, "a@x", true, true, false, 1, 0, none⟩,
    .auditEvent ⟨1, some 1, "auth.login_succeeded", none, none, []⟩]

/-- An account that is registered between two requests. -/
def laterRows : List Row :=
  [.user ⟨3, "c@x", true, false, false, 1, 0, none⟩,
    .auditEvent ⟨2, some 3, "auth.user_registered", none, none, []⟩]

def growing : Nat → Table Row
  | 0 => ⟨firstRows, by decide⟩
  | _ + 1 => ⟨firstRows ++ laterRows, by decide⟩

theorem growing_keeps : KeepsRows growing := by
  constructor
  · intro request user isUser
    refine ⟨user, ?_, rfl⟩
    cases request with
    | zero =>
      rcases List.mem_pair.mp isUser with rfl | rfl
      · exact .head _
      · exact .tail _ (.head _)
    | succ request => exact isUser
  intro request event isEvent
  refine ⟨event, ?_, rfl, rfl, rfl⟩
  cases request with
  | zero =>
    rcases List.mem_singleton.mp isEvent with rfl
    exact .head _
  | succ request => exact isEvent

theorem growing_within : WithinIds growing [1, 2, 3] := by
  have users : ∀ user ∈ tables (growing 1) .user, user.id ∈ ([1, 2, 3] : List Uuid) := by decide
  have events : ∀ event ∈ tables (growing 1) .auditEvent, event.id ∈ ([1, 2, 3] : List Uuid) := by
    decide
  constructor
  · intro request user isUser
    cases request with
    | zero =>
      rcases growing_keeps.users 0 user isUser with ⟨later, isLater, sameId⟩
      exact sameId ▸ users later isLater
    | succ request => exact users user isUser
  intro request event isEvent
  cases request with
  | zero =>
    rcases growing_keeps.events 0 event isEvent with ⟨later, isLater, sameId, _⟩
    exact sameId ▸ events later isLater
  | succ request => exact events event isEvent

/-- The two accounts have the same `created_at`, and a page holds one of them. -/
theorem pagination_visits_rows_growing :
    (∃ items, follow (fetchUsers unaryLibraries (fun _ => 0) 1 growing) 4 0 none =
        .finished items ∧
      (items.map UserPublic.id).Nodup ∧ (∃ item ∈ items, item.id = 1) ∧
      ∃ item ∈ items, item.id = 2) ∧
    ∃ items, follow (fetchAuditEvents unaryLibraries (fun _ => 0) 1 growing ⟨some 1, none, none⟩) 4
        0 none = .finished items ∧ ∃ item ∈ items, item.id = 1 := by
  rcases pagination_visits_rows unaryLibraries (fun _ => 0) (fun _ => 0) ⟨some 1, none, none⟩
    growing 1 (by decide) (by decide) growing_keeps [1, 2, 3] growing_within 4 (by decide) with
    ⟨⟨items, followed, sorted, once, areRows, areListed⟩, events, ended, _, _, _, eventsListed⟩
  refine ⟨⟨items, followed, once, ?_, areListed _ List.mem_cons_self⟩, events, ended, ?_⟩
  · exact areListed _ (List.mem_cons_of_mem _ List.mem_cons_self)
  · exact eventsListed _ List.mem_cons_self (by decide)

end StarterTemplate.Users
