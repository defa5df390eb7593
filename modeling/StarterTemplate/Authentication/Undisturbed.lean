import StarterTemplate.Authentication.Sessions
import StarterTemplate.Library.Turns

/-!
# Programs with one commit

Parts of programs that come before the commit, and use cases whose commit is the last that
they do.  A run of such a use case that nobody disturbs does what it does alone.
-/

namespace StarterTemplate.Authentication

open Library Database Users Prog ReadCommitted

/-- A part of a program before its commit, which deletes only under some keys. -/
abbrev BeforeCommit (removable : RowKey → Prop) {Value : Type} (program : App Value) : Prop :=
  program.Follows (soloProtocol removable) (fun concluded _ => concluded = false) false

/-- A program whose commit is the last that it does, and which deletes only under some keys. -/
abbrev OneCommit (removable : RowKey → Prop) {Value : Type} (program : App Value) : Prop :=
  program.Follows (soloProtocol removable) (fun _ _ => True) false

variable {removable : RowKey → Prop} {Value Other : Type} {post : Bool → Other → Prop}

theorem BeforeCommit.bind {program : App Value} {rest : Value → App Other}
    (first : BeforeCommit removable program)
    (second : ∀ value, (rest value).Follows (soloProtocol removable) post false) :
    (program.bind rest).Follows (soloProtocol removable) post false := by
  apply Follows.bind first
  intro concluded value isOpen
  subst isOpen
  exact second value

/-! ## Statements -/

section

variable {Columns : Type} (site : Site) (table : Row → Option Columns) (test : Columns → Bool)
include site table test

theorem beforeCommit_selectFrom : BeforeCommit removable (selectFrom site table test) :=
  fun _ _ => ⟨false, ⟨rfl, rfl⟩, rfl⟩

theorem beforeCommit_selectForUpdate : BeforeCommit removable (selectForUpdate site table test) :=
  fun _ _ => ⟨false, ⟨rfl, rfl, nofun⟩, rfl⟩

end

theorem beforeCommit_patch {site : Site} {test : Row → Bool} {patch : Patch Row}
    {next : List Row → App Value} (rest : ∀ rows, BeforeCommit removable (next rows)) :
    BeforeCommit removable (.lock site test (.patch patch) next) :=
  fun rows _ => ⟨false, ⟨rfl, rfl, nofun⟩, rest rows⟩

theorem beforeCommit_flush (site : Site) (target : RowKey) (patch : Patch Row) :
    BeforeCommit removable (flush site target patch : App Unit) := beforeCommit_patch fun _ => rfl

theorem beforeCommit_insertRow {row : Row} (lasting : ¬ removable (key row)) :
    BeforeCommit removable (insertRow row) :=
  fun _ => ⟨false, ⟨rfl, rfl, lasting⟩, rfl⟩

theorem beforeCommit_insertRows {rows : List Row}
    (lasting : ∀ row ∈ rows, ¬ removable (key row)) : BeforeCommit removable (insertRows rows) := by
  induction rows with
  | nil => exact rfl
  | cons row rest ih =>
    apply (beforeCommit_insertRow (lasting row (.head _))).bind
    intro inserted
    cases inserted with
    | true => exact ih fun later member => lasting later (.tail _ member)
    | false => exact rfl

theorem oneCommit_commit (answer : Value) :
    OneCommit removable (do commit; return answer : App Value) :=
  ⟨true, ⟨rfl, rfl⟩, trivial⟩

theorem oneCommit_rollback (answer : Value) :
    OneCommit removable (do rollback; return answer : App Value) :=
  ⟨false, ⟨rfl, rfl⟩, trivial⟩

theorem oneCommit_insertAndCommit {rows : List Row} (answer : Answer Value)
    (lasting : ∀ row ∈ rows, ¬ removable (key row)) :
    OneCommit removable (insertAndCommit rows answer) := by
  apply (beforeCommit_insertRows lasting).bind
  intro inserted
  cases inserted with
  | true => exact oneCommit_commit answer
  | false => exact oneCommit_rollback _

/-! ## Repositories -/

theorem beforeCommit_getRow (site : Site) (userId : Uuid) :
    BeforeCommit removable (getRow site userId) :=
  (beforeCommit_selectFrom _ _ _).bind fun _ => rfl

theorem beforeCommit_getById (userId : Uuid) : BeforeCommit removable (getById userId) :=
  (beforeCommit_selectFrom _ _ _).bind fun _ => rfl

theorem beforeCommit_emailTaken (userId : Uuid) (email : String) :
    BeforeCommit removable (emailTaken userId email) :=
  (beforeCommit_selectFrom _ _ _).bind fun _ => rfl

theorem beforeCommit_revokeAll (tokens : List RefreshTokenRow) (now : Instant) :
    BeforeCommit removable (revokeAll tokens now) := by
  rw [revokeAll]
  induction tokens.filter fun token => token.revokedAt = none with
  | nil => exact rfl
  | cons token rest ih => exact (beforeCommit_flush _ _ _).bind fun _ => ih

theorem beforeCommit_createRefreshToken {token : RefreshTokenRow}
    (lasting : ¬ removable (.refreshToken token.id)) :
    BeforeCommit removable (createRefreshToken token) := by
  have inserts : BeforeCommit removable (createRefreshToken.insertToken token) := by
    apply BeforeCommit.bind
    · exact beforeCommit_insertRow lasting
    intro inserted
    cases inserted with
    | true | false => exact rfl
  apply (beforeCommit_selectFrom _ _ _).bind
  intro owners
  cases owners.head? with
  | none => exact inserts
  | some owner =>
    simp only
    split
    · exact inserts
    · exact rfl

/-! ## Use cases -/

/-- No row is deleted. -/
abbrev Undeleted : RowKey → Prop := fun _ => False

theorem oneCommit_logoutUser (input : SessionInput) (refreshToken : Option String) :
    OneCommit Undeleted (logoutUser input refreshToken) := by
  rw [logoutUser]
  split
  · trivial
  apply (beforeCommit_selectFrom _ _ _).bind
  intro found
  cases found.head? with
  | none => trivial
  | some record =>
    simp only
    split
    · trivial
    apply (beforeCommit_selectFrom _ _ _).bind
    intro loaded
    cases loaded.head? with
    | none => trivial
    | some token =>
      apply (beforeCommit_flush _ _ _).bind
      intro _
      exact oneCommit_commit _

theorem oneCommit_rotateRefreshToken (settings : SessionSettings) (input : SessionInput)
    (refreshToken : Option String) :
    OneCommit Undeleted (rotateRefreshToken settings input refreshToken) := by
  rw [rotateRefreshToken]
  split
  · trivial
  apply (beforeCommit_selectForUpdate _ _ _).bind
  intro found
  cases found.head? with
  | none => exact oneCommit_commit _
  | some record =>
    simp only
    split
    · apply BeforeCommit.bind
      · apply (beforeCommit_selectForUpdate _ _ _).bind
        intro tokens
        exact beforeCommit_revokeAll tokens _
      · intro _
        exact oneCommit_insertAndCommit _ fun _ _ => id
    split
    · apply (beforeCommit_flush _ _ _).bind
      intro _
      exact oneCommit_commit _
    apply (beforeCommit_getById _).bind
    intro user
    cases user with
    | none => exact oneCommit_commit _
    | some user =>
      simp only
      split
      · exact oneCommit_commit _
      apply (beforeCommit_createRefreshToken id).bind
      intro exception
      cases exception with
      | some exception => exact oneCommit_rollback _
      | none =>
        apply (beforeCommit_flush _ _ _).bind
        intro _
        exact oneCommit_insertAndCommit _ fun _ _ => id

end StarterTemplate.Authentication
