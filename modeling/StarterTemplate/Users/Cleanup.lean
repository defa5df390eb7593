import StarterTemplate.Library.Addresses
import StarterTemplate.Users.Assets

/-!
# Cleanup over any storage

`FileStorageUserAssetsAdapter` uses no more of its storage than `list` and `delete`.  Here
it runs over any port that behaves as a map, with any failures: a run removes objects of its
user only, and a run that succeeds removes all of them, whatever earlier runs left behind.
-/

namespace StarterTemplate.Users

open Library FileStorage

/-! ## Ports that behave as maps -/

/-- A `FileStoragePort` that behaves as a map from keys to contents.  Each call is given how
it fails, if it does.  Errors are given by their texts.  A `delete` that fails may have
removed its object, and concerns no other one. -/
structure MapPort (State Content Failure : Type) where
  content : State → String → Option Content
  list : Option Failure → String → State → Except String (List String) × State
  delete : Option Failure → String → State → Except String Unit × State
  content_list : ∀ failure start state, content (list failure start state).2 = content state
  list_ok : ∀ start state, ∃ keys, (list none start state).1 = .ok keys ∧
    ∀ key, key ∈ keys ↔ (content state key).isSome = true ∧ startsWith start key = true
  list_error : ∀ failure start state, ∃ reason, (list (some failure) start state).1 = .error reason
  delete_ok : ∀ key state, (delete none key state).1 = .ok () ∧
    content (delete none key state).2 key = none
  delete_error : ∀ failure key state, ∃ reason,
    (delete (some failure) key state).1 = .error reason
  content_delete_self : ∀ failure key state,
    content (delete failure key state).2 key = content state key ∨
      content (delete failure key state).2 key = none
  content_delete_of_ne : ∀ failure key state other, other ≠ key →
    content (delete failure key state).2 other = content state other

namespace MapPort

variable {State Content Failure : Type} (port : MapPort State Content Failure)

/-- The loop of `delete_user_assets` from the given call on, which the first failure leaves. -/
def deleteKeys (failures : Nat → Option Failure) :
    Nat → List String → State → Outbox.EffectResult × State
  | _, [], state => (.ok, state)
  | call, key :: keys, state =>
    match port.delete (failures call) key state with
    | (.error reason, after) => (.err (cleanupError reason), after)
    | (.ok (), after) => deleteKeys failures (call + 1) keys after

/-- `delete_user_assets`, where the first call is the one of `list`. -/
def deleteUserAssets (failures : Nat → Option Failure) (userId : Uuid) (state : State) :
    Outbox.EffectResult × State :=
  match port.list (failures 0) (userPrefix userId) state with
  | (.error reason, after) => (.err (cleanupError reason), after)
  | (.ok keys, after) => if keys = [] then (.ok, after) else port.deleteKeys failures 1 keys after

/-! ### What a run removes -/

/-- Objects of the affected keys may be gone, and nothing else has changed. -/
def OnlyRemoves (affected : String → Prop) (before after : State) : Prop :=
  ∀ key, port.content after key = port.content before key ∨
    (affected key ∧ port.content after key = none)

variable {port} {affected : String → Prop} {before between after state : State}
  {failures : Nat → Option Failure}

theorem OnlyRemoves.refl : port.OnlyRemoves affected state state := fun _ => .inl rfl

theorem OnlyRemoves.trans (first : port.OnlyRemoves affected before between)
    (second : port.OnlyRemoves affected between after) :
    port.OnlyRemoves affected before after := by
  intro key
  rcases second key with same | gone
  · rw [same]
    exact first key
  · exact .inr gone

theorem OnlyRemoves.mono {more : String → Prop} (removes : port.OnlyRemoves affected before after)
    (among : ∀ key, affected key → more key) : port.OnlyRemoves more before after :=
  fun key => (removes key).imp_right fun gone => ⟨among key gone.1, gone.2⟩

/-- What is gone stays away. -/
theorem OnlyRemoves.absent {key : String} (removes : port.OnlyRemoves affected before after)
    (absent : port.content before key = none) : port.content after key = none := by
  rcases removes key with same | gone
  · rw [same, absent]
  · exact gone.2

theorem onlyRemoves_list (failure : Option Failure) (start : String) :
    port.OnlyRemoves affected state (port.list failure start state).2 := by
  intro key
  rw [port.content_list]
  exact .inl rfl

theorem onlyRemoves_delete (failure : Option Failure) (key : String) :
    port.OnlyRemoves (· = key) state (port.delete failure key state).2 := by
  intro other
  by_cases same : other = key
  · subst same
    exact (port.content_delete_self failure other state).imp_right fun gone => ⟨rfl, gone⟩
  · exact .inl (port.content_delete_of_ne failure key state other same)

/-! ### The loop -/

variable {call : Nat} {key : String} {keys : List String}

theorem deleteKeys_cons_ok (healthy : failures call = none) :
    port.deleteKeys failures call (key :: keys) state =
      port.deleteKeys failures (call + 1) keys (port.delete none key state).2 := by
  have isOk := (port.delete_ok key state).1
  rw [deleteKeys, healthy]
  rcases answer : port.delete none key state with ⟨result, after⟩
  rw [answer] at isOk
  dsimp only at isOk
  rw [isOk]

theorem deleteKeys_cons_error {failure : Failure} (fails : failures call = some failure) :
    ∃ reason, port.deleteKeys failures call (key :: keys) state =
      (.err (cleanupError reason), (port.delete (some failure) key state).2) := by
  rcases port.delete_error failure key state with ⟨reason, isError⟩
  refine ⟨reason, ?_⟩
  rw [deleteKeys, fails]
  rcases answer : port.delete (some failure) key state with ⟨result, after⟩
  rw [answer] at isError
  dsimp only at isError
  rw [isError]

theorem onlyRemoves_deleteKeys (failures : Nat → Option Failure) (call : Nat)
    (keys : List String) (state : State) :
    port.OnlyRemoves (· ∈ keys) state (port.deleteKeys failures call keys state).2 := by
  induction keys generalizing call state with
  | nil => exact .refl
  | cons key keys ih =>
    have first : ∀ failure, port.OnlyRemoves (· ∈ key :: keys) state
        (port.delete failure key state).2 := by
      intro failure
      apply (onlyRemoves_delete failure key).mono
      intro other same
      exact List.mem_cons.mpr (.inl same)
    cases planned : failures call with
    | none =>
      rw [deleteKeys_cons_ok planned]
      apply (first none).trans
      exact (ih _ _).mono fun other later => List.mem_cons_of_mem key later
    | some failure =>
      rcases deleteKeys_cons_error planned with ⟨reason, isError⟩
      rw [isError]
      exact first (some failure)

/-- A loop that ends well has removed its keys. -/
theorem absent_of_deleteKeys (isOk : (port.deleteKeys failures call keys state).1 = .ok) :
    ∀ key ∈ keys, port.content (port.deleteKeys failures call keys state).2 key = none := by
  induction keys generalizing call state with
  | nil =>
    simp
  | cons first keys ih =>
    cases planned : failures call with
    | none =>
      rw [deleteKeys_cons_ok planned] at isOk ⊢
      intro key isKey
      rcases List.mem_cons.mp isKey with isFirst | later
      · rw [isFirst]
        exact (onlyRemoves_deleteKeys failures (call + 1) keys _).absent
          (port.delete_ok first state).2
      · exact ih isOk key later
    | some failure =>
      rcases deleteKeys_cons_error planned with ⟨reason, isError⟩
      rw [isError] at isOk
      cases isOk

theorem deleteKeys_healthy (keys : List String) (call : Nat) (state : State) :
    (port.deleteKeys (fun _ => none) call keys state).1 = .ok := by
  induction keys generalizing call state with
  | nil => rfl
  | cons key keys ih =>
    rw [deleteKeys_cons_ok rfl]
    exact ih _ _

/-! ### A run -/

variable {userId : Uuid}

/-- A run that can list works through the listed keys. -/
theorem deleteUserAssets_listed (healthy : failures 0 = none) :
    ∃ keys, (∀ key, key ∈ keys ↔ (port.content state key).isSome = true ∧
        startsWith (userPrefix userId) key = true) ∧
      port.deleteUserAssets failures userId state =
        port.deleteKeys failures 1 keys (port.list none (userPrefix userId) state).2 := by
  rcases port.list_ok (userPrefix userId) state with ⟨keys, isOk, isListed⟩
  refine ⟨keys, isListed, ?_⟩
  rw [deleteUserAssets, healthy]
  rcases answer : port.list none (userPrefix userId) state with ⟨result, after⟩
  rw [answer] at isOk
  dsimp only at isOk
  rw [isOk]
  dsimp only
  split
  · rename_i none
    rw [none, deleteKeys]
  · rfl

theorem deleteUserAssets_unlisted {failure : Failure} (fails : failures 0 = some failure) :
    ∃ reason, port.deleteUserAssets failures userId state =
      (.err (cleanupError reason), (port.list (some failure) (userPrefix userId) state).2) := by
  rcases port.list_error failure (userPrefix userId) state with ⟨reason, isError⟩
  refine ⟨reason, ?_⟩
  rw [deleteUserAssets, fails]
  rcases answer : port.list (some failure) (userPrefix userId) state with ⟨result, after⟩
  rw [answer] at isError
  dsimp only at isError
  rw [isError]

/-- A run removes objects of its user only. -/
theorem onlyRemoves_deleteUserAssets (failures : Nat → Option Failure) (userId : Uuid)
    (state : State) :
    port.OnlyRemoves (fun key => startsWith (userPrefix userId) key = true) state
      (port.deleteUserAssets failures userId state).2 := by
  cases planned : failures 0 with
  | none =>
    rcases deleteUserAssets_listed planned with ⟨keys, isListed, isRun⟩
    rw [isRun]
    apply (onlyRemoves_list none (userPrefix userId)).trans
    apply (onlyRemoves_deleteKeys failures 1 keys _).mono
    intro key isKey
    exact ((isListed key).mp isKey).2
  | some failure =>
    rcases deleteUserAssets_unlisted planned with ⟨reason, isRun⟩
    rw [isRun]
    exact onlyRemoves_list (some failure) (userPrefix userId)

/-- A run that ends well leaves no object of its user. -/
theorem absent_of_deleteUserAssets (isOk : (port.deleteUserAssets failures userId state).1 = .ok)
    (isOwn : startsWith (userPrefix userId) key = true) :
    port.content (port.deleteUserAssets failures userId state).2 key = none := by
  cases planned : failures 0 with
  | none =>
    rcases deleteUserAssets_listed planned with ⟨keys, isListed, isRun⟩
    cases stored : port.content state key with
    | none => exact (onlyRemoves_deleteUserAssets failures userId state).absent stored
    | some content =>
      rw [isRun] at isOk ⊢
      apply absent_of_deleteKeys isOk
      exact (isListed key).mpr ⟨by rw [stored]; rfl, isOwn⟩
  | some failure =>
    rcases deleteUserAssets_unlisted planned with ⟨reason, isRun⟩
    rw [isRun] at isOk
    cases isOk

theorem deleteUserAssets_healthy (userId : Uuid) (state : State) :
    (port.deleteUserAssets (fun _ => none) userId state).1 = .ok := by
  rcases @deleteUserAssets_listed _ _ _ port state (fun _ => none) userId rfl with
    ⟨keys, _, isRun⟩
  rw [isRun]
  exact deleteKeys_healthy keys 1 _

/-- Any number of runs removes objects of the user only. -/
theorem onlyRemoves_runs (userId : Uuid) (runs : List (Nat → Option Failure)) (state : State) :
    port.OnlyRemoves (fun key => startsWith (userPrefix userId) key = true) state
      (served (fun state failures => port.deleteUserAssets failures userId state) state runs) := by
  induction runs generalizing state with
  | nil => exact .refl
  | cons failures runs ih => exact (onlyRemoves_deleteUserAssets failures userId state).trans (ih _)

end MapPort

/-! ## Directories of users -/

theorem slash_not_mem_str (uuid : Uuid) : '/' ∉ uuid.str.toList := by
  intro isMember
  rcases Uuid.mem_str isMember with isDigit | isHyphen
  · revert isDigit
    decide
  · revert isHyphen
    decide

/-- The text before the first slash tells apart what begins with it. -/
theorem eq_of_startsWith {before left right key : String} (leftFree : '/' ∉ left.toList)
    (rightFree : '/' ∉ right.toList) (startsLeft : startsWith (before ++ left ++ "/") key = true)
    (startsRight : startsWith (before ++ right ++ "/") key = true) : left = right := by
  rw [startsWith, List.isPrefixOf_iff_prefix] at startsLeft startsRight
  rcases startsLeft with ⟨afterLeft, isLeft⟩
  rcases startsRight with ⟨afterRight, isRight⟩
  have same := isLeft.trans isRight.symm
  simp only [String.toList_append, List.append_assoc] at same
  have same := List.append_cancel_left same
  exact String.toList_injective (split_at_first leftFree rightFree same).1

/-- No key is in the directories of two users. -/
theorem owner_unique {first second : Uuid} {key : String}
    (isFirst : startsWith (userPrefix first) key = true)
    (isSecond : startsWith (userPrefix second) key = true) : first = second :=
  Uuid.str_injective (eq_of_startsWith (slash_not_mem_str first) (slash_not_mem_str second)
    isFirst isSecond)

/-! ## The cleanup -/

end StarterTemplate.Users
