import Mathlib.Logic.Function.Basic
import StarterTemplate.Database.Schema

/-!
# The database as tables of records

A database is one list of rows.  Sorted by table it is a list of records for each kind of
row, and each statement changes one of these lists.
-/

namespace StarterTemplate.Database

open Library

/-- The tables. -/
inductive Kind where
  | user
  | credential
  | refreshToken
  | internalToken
  | auditEvent
  | relationship
  | outbox
  deriving DecidableEq

/-- The records of a table. -/
abbrev Kind.Record : Kind → Type
  | .user => UserRow
  | .credential => CredentialRow
  | .refreshToken => RefreshTokenRow
  | .internalToken => InternalTokenRow
  | .auditEvent => AuditEventRow
  | .relationship => RelationshipRow
  | .outbox => Outbox.OutboxRow

def Row.outbox? : Row → Option Outbox.OutboxRow
  | .outbox row => some row
  | _ => none

/-- The record of a row of the table. -/
def Kind.read : (kind : Kind) → Row → Option kind.Record
  | .user => Row.user?
  | .credential => Row.credential?
  | .refreshToken => Row.refreshToken?
  | .internalToken => Row.internalToken?
  | .auditEvent => Row.auditEvent?
  | .relationship => Row.relationship?
  | .outbox => Row.outbox?

/-- The row of a record. -/
def Kind.row : (kind : Kind) → kind.Record → Row
  | .user => .user
  | .credential => .credential
  | .refreshToken => .refreshToken
  | .internalToken => .internalToken
  | .auditEvent => .auditEvent
  | .relationship => .relationship
  | .outbox => .outbox

/-- The table of a row. -/
def Row.kind : Row → Kind
  | .user _ => .user
  | .credential _ => .credential
  | .refreshToken _ => .refreshToken
  | .internalToken _ => .internalToken
  | .auditEvent _ => .auditEvent
  | .relationship _ => .relationship
  | .outbox _ => .outbox

/-- The id of a record. -/
def Kind.id : (kind : Kind) → kind.Record → Uuid
  | .user => UserRow.id
  | .credential => CredentialRow.id
  | .refreshToken => RefreshTokenRow.id
  | .internalToken => InternalTokenRow.id
  | .auditEvent => AuditEventRow.id
  | .relationship => RelationshipRow.id
  | .outbox => fun row => row.id

/-- The key of a record with the id. -/
def Kind.key : Kind → Uuid → RowKey
  | .user => .user
  | .credential => .credential
  | .refreshToken => .refreshToken
  | .internalToken => .internalToken
  | .auditEvent => .auditEvent
  | .relationship => .relationship
  | .outbox => .outbox

variable {kind : Kind}

theorem Kind.key_row (record : kind.Record) :
    Library.key (kind.row record) = kind.key (kind.id record) := by
  cases kind <;> rfl

theorem Kind.key_injective {left right : Uuid} (same : kind.key left = kind.key right) :
    left = right := by
  cases kind <;> cases same <;> rfl

variable {row : Row}

theorem Kind.kind_of_key {id : Uuid} (isKey : Library.key row = kind.key id) :
    row.kind = kind := by
  cases kind <;> cases row <;> first | rfl | cases isKey

@[simp] theorem Kind.read_row (record : kind.Record) : kind.read (kind.row record) = some record := by
  cases kind <;> rfl

@[simp] theorem Kind.kind_row (record : kind.Record) : (kind.row record).kind = kind := by
  cases kind <;> rfl

theorem Kind.row_of_read {record : kind.Record} (found : kind.read row = some record) :
    row = kind.row record := by
  cases kind <;> cases row <;> cases found <;> rfl

theorem Kind.read_of_ne (differ : row.kind ≠ kind) : kind.read row = none := by
  cases kind <;> cases row <;> first | rfl | exact absurd rfl differ

theorem Kind.row_of_kind (isKind : row.kind = kind) :
    ∃ record, row = kind.row record := by
  subst isKind
  cases row <;> exact ⟨_, rfl⟩

variable {left right : Row}

theorem Row.kind_of_key (sameKey : key left = key right) :
    left.kind = right.kind := by
  cases left <;> cases right <;> first | rfl | cases sameKey

theorem clashes_of_kind_ne (differ : left.kind ≠ right.kind) :
    clashes left right = false := by
  cases left <;> cases right <;> first | rfl | exact absurd rfl differ

/-- The record of a row. -/
def Row.record : (row : Row) → row.kind.Record
  | .user row => row
  | .credential row => row
  | .refreshToken row => row
  | .internalToken row => row
  | .auditEvent row => row
  | .relationship row => row
  | .outbox row => row

@[simp] theorem Row.row_record (row : Row) : row.kind.row row.record = row := by
  cases row <;> rfl

/-- The records, table by table. -/
abbrev Tables := (kind : Kind) → List kind.Record

/-- The database as tables of records. -/
def tables (database : Table Row) : Tables := fun kind => database.rows.filterMap kind.read

namespace Tables

variable {content : Tables} {other : Kind}

/-- The records of one table, changed. -/
def mark (content : Tables) (kind : Kind) (change : kind.Record → kind.Record) : Tables :=
  Function.update content kind ((content kind).map change)

/-- The records of one table that pass a test. -/
def keep (content : Tables) (kind : Kind) (test : kind.Record → Bool) : Tables :=
  Function.update content kind ((content kind).filter test)

/-- One more row. -/
def add (content : Tables) (row : Row) : Tables :=
  Function.update content row.kind (content row.kind ++ [row.record])

@[simp] theorem mark_self (change : kind.Record → kind.Record) :
    content.mark kind change kind = (content kind).map change := Function.update_self ..

@[simp] theorem mark_of_ne (change : kind.Record → kind.Record) (differ : other ≠ kind) :
    content.mark kind change other = content other := Function.update_of_ne differ ..

theorem mark_congr {change same : kind.Record → kind.Record}
    (agree : ∀ record ∈ content kind, change record = same record) :
    content.mark kind change = content.mark kind same := by
  rw [mark, mark, List.map_congr_left agree]

theorem mark_eq_self {change : kind.Record → kind.Record}
    (stays : ∀ record ∈ content kind, change record = record) :
    content.mark kind change = content := by
  rw [mark, List.map_congr_left stays, List.map_id', Function.update_eq_self]

theorem mark_mark (first second : kind.Record → kind.Record) :
    (content.mark kind first).mark kind second =
      content.mark kind fun record => second (first record) := by
  rw [mark, mark_self, mark, mark, Function.update_idem, List.map_map]
  rfl

@[simp] theorem keep_self (test : kind.Record → Bool) :
    content.keep kind test kind = (content kind).filter test := Function.update_self ..

@[simp] theorem keep_of_ne (test : kind.Record → Bool) (differ : other ≠ kind) :
    content.keep kind test other = content other := Function.update_of_ne differ ..

theorem keep_congr {test same : kind.Record → Bool}
    (agree : ∀ record ∈ content kind, test record = same record) :
    content.keep kind test = content.keep kind same := by
  rw [keep, keep, List.filter_congr agree]

theorem keep_eq_self {test : kind.Record → Bool}
    (passes : ∀ record ∈ content kind, test record = true) : content.keep kind test = content := by
  rw [keep, List.filter_eq_self.mpr passes, Function.update_eq_self]

theorem keep_keep (first second : kind.Record → Bool) :
    (content.keep kind first).keep kind second =
      content.keep kind fun record => second record && first record := by
  rw [keep, keep_self, keep, keep, Function.update_idem, List.filter_filter]

/-- The test of a changed record is made before the change. -/
theorem keep_mark (change : kind.Record → kind.Record) (test : kind.Record → Bool) :
    (content.mark kind change).keep kind test =
      (content.keep kind fun record => test (change record)).mark kind change := by
  rw [keep, mark_self, mark, mark, keep_self, keep, Function.update_idem, Function.update_idem,
    List.filter_map]
  rfl

@[simp] theorem add_self (record : kind.Record) :
    content.add (kind.row record) kind = content kind ++ [record] := by
  cases kind <;> exact Function.update_self ..

@[simp] theorem add_of_ne (differ : other ≠ row.kind) :
    content.add row other = content other := Function.update_of_ne differ ..

/-- Every record of the tables has the property. -/
def All (holds : Row → Prop) (content : Tables) : Prop :=
  ∀ kind, ∀ record ∈ content kind, holds (kind.row record)

section All

variable {holds : Row → Prop}

section

variable (all : content.All holds)
include all

/-- One table is replaced. -/
theorem All.update {records : List kind.Record}
    (replaced : ∀ record ∈ records, holds (kind.row record)) :
    All holds (Function.update content kind records) := by
  intro other record isRecord
  by_cases isKind : other = kind
  · subst isKind
    rw [Function.update_self] at isRecord
    exact replaced record isRecord
  · rw [Function.update_of_ne isKind] at isRecord
    exact all other record isRecord

theorem All.mark {change : kind.Record → kind.Record}
    (keeps : ∀ record ∈ content kind, holds (kind.row record) → holds (kind.row (change record))) :
    (content.mark kind change).All holds := by
  apply all.update
  intro record isRecord
  rcases List.mem_map.mp isRecord with ⟨old, stored, isChanged⟩
  rw [← isChanged]
  exact keeps old stored (all kind old stored)

theorem All.keep {test : kind.Record → Bool} : (content.keep kind test).All holds := by
  apply all.update
  intro record isRecord
  exact all kind record (List.mem_filter.mp isRecord).1

theorem All.add (has : holds row) : (content.add row).All holds := by
  apply all.update
  intro record isRecord
  rcases List.mem_append.mp isRecord with old | new
  · exact all row.kind record old
  · rw [List.mem_singleton.mp new, Row.row_record]
    exact has

theorem All.addAll {rows : List Row} (has : ∀ row ∈ rows, holds row) :
    (rows.foldl Tables.add content).All holds := by
  induction rows generalizing content with
  | nil => exact all
  | cons row rows ih =>
    exact ih (all.add (has row (.head _)))
      fun other isOther => has other (.tail _ isOther)

end

end All

end Tables

variable {database : Table Row}

theorem mem_tables {record : kind.Record} :
    record ∈ tables database kind ↔ kind.row record ∈ database.rows := by
  rw [tables, List.mem_filterMap]
  constructor
  · intro ⟨row, member, isRecord⟩
    rw [← Kind.row_of_read isRecord]
    exact member
  · intro member
    exact ⟨_, member, Kind.read_row record⟩

/-- What holds of every row holds of every record. -/
theorem forall_rows (holds : Row → Prop) (database : Table Row) :
    (∀ row ∈ database.rows, holds row) ↔ (tables database).All holds := by
  constructor
  · intro all kind record stored
    exact all _ (mem_tables.mp stored)
  · intro all row stored
    rw [← Row.row_record row] at stored ⊢
    exact all row.kind row.record (mem_tables.mpr stored)

/-- The ids of one table are distinct. -/
theorem nodup_tables (database : Table Row) (kind : Kind) :
    ((tables database kind).map kind.id).Nodup := by
  have sublist : (((tables database kind).map kind.id).map kind.key).Sublist
      (database.rows.map key) := by
    rw [tables]
    generalize database.rows = rows
    induction rows with
    | nil => exact List.Sublist.refl []
    | cons row rest ih =>
      cases found : kind.read row with
      | none =>
        rw [List.filterMap_cons_none found, List.map_cons]
        exact ih.cons (key row)
      | some record =>
        rw [List.filterMap_cons_some found, List.map_cons, List.map_cons, List.map_cons,
          Kind.row_of_read found, Kind.key_row]
        exact ih.cons_cons (kind.key (kind.id record))
  exact (database.nodup.sublist sublist).of_map kind.key

/-! ## Selection -/

/-- The rows that pass a test on one table are those of its records. -/
theorem filter_onTable (test : kind.Record → Bool) (rows : List Row) :
    rows.filter (onTable kind.read test) = ((rows.filterMap kind.read).filter test).map kind.row := by
  induction rows with
  | nil => rfl
  | cons row rest ih =>
    cases found : kind.read row with
    | none => simp [onTable, found, ih]
    | some record =>
      have isRow := Kind.row_of_read found
      by_cases passes : test record = true
      · simp [onTable, passes, ih, isRow]
      · simp [onTable, found, passes, ih]

/-- The keys of those rows. -/
theorem keys_onTable (test : kind.Record → Bool) (database : Table Row) :
    (database.rows.filter (onTable kind.read test)).map key =
      ((tables database kind).filter test).map fun record => kind.key (kind.id record) := by
  rw [filter_onTable, List.map_map]
  apply List.map_congr_left
  intro record _
  exact Kind.key_row record

/-- A selection from one table filters its records. -/
theorem filterMap_onTable (test : kind.Record → Bool) (rows : List Row) :
    (rows.filter (onTable kind.read test)).filterMap kind.read =
      (rows.filterMap kind.read).filter test := by
  rw [filter_onTable, List.filterMap_map]
  simp

/-! ## Update -/

/-- The update changes the records of one table, and no other row. -/
def Marks (kind : Kind) (test : Row → Bool) (patch : Patch Row)
    (mark : kind.Record → kind.Record) : Prop :=
  (∀ record, (if test (kind.row record) then patch.apply (kind.row record)
    else kind.row record) = kind.row (mark record)) ∧
    ∀ row, row.kind ≠ kind → (if test row then patch.apply row else row) = row

theorem tables_updateWhere {test : Row → Bool} {patch : Patch Row}
    {mark : kind.Record → kind.Record} (marks : Marks kind test patch mark) :
    tables (database.updateWhere test patch) = (tables database).mark kind mark := by
  funext other
  by_cases isKind : other = kind
  · subst isKind
    rw [Tables.mark_self]
    simp only [tables, Table.updateWhere]
    rw [List.filterMap_map, List.map_filterMap]
    apply List.filterMap_congr
    intro row _
    simp only [Function.comp_apply]
    by_cases same : row.kind = other
    · rcases Kind.row_of_kind same with ⟨record, isRow⟩
      rw [isRow, marks.1 record, Kind.read_row, Kind.read_row, Option.map_some]
    · rw [marks.2 row same, Kind.read_of_ne same, Option.map_none]
  rw [Tables.mark_of_ne _ isKind]
  simp only [tables, Table.updateWhere]
  rw [List.filterMap_map]
  apply List.filterMap_congr
  intro row _
  simp only [Function.comp_apply]
  by_cases same : row.kind = kind
  · rcases Kind.row_of_kind same with ⟨record, isRow⟩
    rw [isRow, marks.1 record, Kind.read_of_ne, Kind.read_of_ne]
    · rw [Kind.kind_row]
      exact Ne.symm isKind
    · rw [Kind.kind_row]
      exact Ne.symm isKind
  · rw [marks.2 row same]

/-! ## Deletion and insertion -/

theorem tables_without (test : kind.Record → Bool) :
    tables (database.without ((database.rows.filter (onTable kind.read test)).map key)) =
      (tables database).keep kind fun record => !test record := by
  have onlyKind : ∀ row : Row, row.kind ≠ kind → onTable kind.read test row = false := by
    intro row differ
    rw [onTable, Kind.read_of_ne differ]
  funext other
  simp only [tables, Table.rows_without_filter]
  by_cases isKind : other = kind
  · subst isKind
    rw [Tables.keep_self, tables]
    generalize database.rows = rows
    induction rows with
    | nil => rfl
    | cons row rest ih =>
      cases found : other.read row with
      | none =>
        have fails : onTable other.read test row = false := by rw [onTable, found]
        simp [found, fails, ih]
      | some record =>
        have result : onTable other.read test row = test record := by rw [onTable, found]
        cases passes : test record <;> simp [found, result, passes, ih]
  rw [Tables.keep_of_ne _ isKind, tables]
  generalize database.rows = rows
  induction rows with
  | nil => rfl
  | cons row rest ih =>
    by_cases same : row.kind = kind
    · have unread : other.read row = none := Kind.read_of_ne (same ▸ Ne.symm isKind)
      cases passes : onTable kind.read test row <;> simp [unread, passes, ih]
    · simp [List.filterMap_cons, onlyKind row same, ih]

/-- A new row of the table. -/
theorem tables_put {record : kind.Record}
    (new : key (kind.row record) ∉ database.rows.map key) :
    tables (database.put (kind.row record)) = (tables database).add (kind.row record) := by
  funext other
  rw [Table.put, dif_neg new]
  by_cases isKind : other = kind
  · subst isKind
    simp [tables]
  rw [Tables.add_of_ne (by rwa [Kind.kind_row])]
  have otherTable : other.read (kind.row record) = none := by
    apply Kind.read_of_ne
    rw [Kind.kind_row]
    exact Ne.symm isKind
  simp [otherTable, tables]

/-- The record has the key of a stored one, or violates a constraint together with it. -/
def Violates (kind : Kind) (records : List kind.Record) (record : kind.Record) : Prop :=
  ∃ old ∈ records, key (kind.row record) = key (kind.row old) ∨
    clashes (kind.row record) (kind.row old) = true

instance (kind : Kind) (records : List kind.Record) (record : kind.Record) :
    Decidable (Violates kind records record) := List.decidableBEx _ _

/-- Only rows of the same table stand in the way of an insertion. -/
theorem violates_iff {record : kind.Record} :
    Violates kind (tables database kind) record ↔
      (∃ old ∈ database.rows, clashes (kind.row record) old = true) ∨
        key (kind.row record) ∈ database.rows.map key := by
  constructor
  · intro ⟨old, member, violates⟩
    rw [mem_tables] at member
    rcases violates with sameKey | clash
    · exact .inr (List.mem_map.mpr ⟨_, member, sameKey.symm⟩)
    · exact .inl ⟨_, member, clash⟩
  intro possible
  rcases possible with ⟨old, member, clash⟩ | taken
  · by_cases same : old.kind = kind
    · rcases Kind.row_of_kind same with ⟨stored, isRow⟩
      subst isRow
      exact ⟨stored, mem_tables.mpr member, .inr clash⟩
    rw [clashes_of_kind_ne] at clash
    · cases clash
    · rw [Kind.kind_row]
      exact Ne.symm same
  rcases List.mem_map.mp taken with ⟨old, member, sameKey⟩
  have same : old.kind = kind := (Row.kind_of_key sameKey).trans (Kind.kind_row record)
  rcases Kind.row_of_kind same with ⟨stored, isRow⟩
  subst isRow
  exact ⟨stored, mem_tables.mpr member, .inl sameKey.symm⟩

/-- The rows can be inserted one after the other. -/
def Accepts : Tables → List Row → Prop
  | _, [] => True
  | content, row :: rows =>
    ¬ Violates row.kind (content row.kind) row.record ∧ Accepts (content.add row) rows

instance : (content : Tables) → (rows : List Row) → Decidable (Accepts content rows)
  | _, [] => .isTrue trivial
  | content, row :: rows =>
    have := instDecidableAccepts (content.add row) rows
    inferInstanceAs (Decidable (_ ∧ _))

end StarterTemplate.Database
