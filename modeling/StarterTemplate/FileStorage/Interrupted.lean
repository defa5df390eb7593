import StarterTemplate.FileStorage.Local

/-!
# Interrupted writes of the local file storage

`put` and `delete` take their file-system steps one after another.  A step may fail with an
`OSError`, and a crash may come after any of them.  `list` finds a key through its sidecar
only, and `put` writes the sidecar last, so that an object can be stored without being
listed.  `delete` removes the sidecar last, and leaves at worst a sidecar without an object.
-/

namespace StarterTemplate.FileStorage

open Library

/-! ## Steps -/

/-- A file-system step for a key. -/
inductive FileStep where
  | makeDirectory
  | writeObject (content : Bytes)
  | writeSidecar (contentType : String)
  | unlinkObject
  | unlinkSidecar

/-- A call that changes the storage. -/
inductive WriteCall where
  | put (key : String) (content : Bytes) (contentType : String)
  | delete (key : String)

namespace WriteCall

/-- The key of the call. -/
def key : WriteCall → String
  | put key _ _ | delete key => key

/-- The steps of the call, in their order. -/
def steps : WriteCall → List FileStep
  | put _ content contentType => [.makeDirectory, .writeObject content, .writeSidecar contentType]
  | delete _ => [.unlinkObject, .unlinkSidecar]

end WriteCall

/-- What stops a call: a step that fails with an `OSError`, or a crash after some steps. -/
inductive Fault where
  | error (step : Nat) (reason : String)
  | crash (steps : Nat)

/-- A call with what stops it, if anything does. -/
structure WriteRequest where
  call : WriteCall
  fault : Option Fault

/-- The steps that take place. -/
def WriteRequest.taken (request : WriteRequest) : List FileStep :=
  match request.fault with
  | none => request.call.steps
  | some (.error step _) => request.call.steps.take step
  | some (.crash steps) => request.call.steps.take steps

/-- How a call ends, unless the process is gone. -/
inductive WriteAnswer where
  | ok
  | backendError (reason : String)
  | crashed
  deriving DecidableEq

/-- The answer of the call. -/
def WriteRequest.answer (request : WriteRequest) : WriteAnswer :=
  match request.fault with
  | none => .ok
  | some (.error _ reason) => .backendError reason
  | some (.crash _) => .crashed

section Adapter

variable (platform : Platform) (root : Path)

/-- One step.  Directories hold nothing by themselves. -/
def FileStep.apply (key : String) (files : Files Bytes) : FileStep → Files Bytes
  | makeDirectory => files
  | writeObject content => files.write (objectPath platform root key) content
  | writeSidecar contentType =>
    files.write (metadataPath platform root key) (platform.dumps (metadata key contentType))
  | unlinkObject => files.unlink (objectPath platform root key)
  | unlinkSidecar => files.unlink (metadataPath platform root key)

/-- A call up to the point at which it is stopped. -/
def perform (files : Files Bytes) (request : WriteRequest) : WriteAnswer × Files Bytes :=
  (request.answer, request.taken.foldl (FileStep.apply platform root request.call.key) files)

/-- A call that nothing stops does what the adapter does without errors. -/
theorem perform_put (files : Files Bytes) (key : String) (content : Bytes) (contentType : String) :
    (perform platform root files ⟨.put key content contentType, none⟩).2 =
      (localPut platform root files key content contentType).2 := rfl

theorem perform_delete (files : Files Bytes) (key : String) :
    (perform platform root files ⟨.delete key, none⟩).2 =
      (localDelete platform root files key).2 := rfl

end Adapter

theorem taken_isPrefix (request : WriteRequest) : request.taken <+: request.call.steps := by
  rw [WriteRequest.taken]
  split
  · exact List.prefix_rfl
  · exact List.take_prefix _ _
  · exact List.take_prefix _ _

/-! ## What the sidecars say -/

section Invariants

variable (platform : Platform) (root : Path) (names : Set String)

/-- Every sidecar is one of a key, and names it. -/
structure Tidy (files : Files Bytes) : Prop where
  owned : ∀ path ∈ files.rglob root metadataSuffix, ∃ key ∈ names,
    path = metadataPath platform root key
  sound : ∀ key ∈ names, ∀ document, files.read (metadataPath platform root key) = some document →
    ∃ contentType, document = platform.dumps (metadata key contentType)

/-- The key has a sidecar. -/
def HasSidecar (files : Files Bytes) (key : String) : Prop :=
  (files.read (metadataPath platform root key)).isSome = true

/-- The key has an object. -/
def HasObject (files : Files Bytes) (key : String) : Prop :=
  (files.read (objectPath platform root key)).isSome = true

/-- Every object has a sidecar. -/
def Paired (files : Files Bytes) : Prop :=
  ∀ key ∈ names, HasObject platform root files key → HasSidecar platform root files key

/-- A `put` that is stopped between its two writes is of a key that has a sidecar. -/
def KeepsPairs (request : WriteRequest) (files : Files Bytes) : Prop :=
  ∀ key content contentType, request.call = .put key content contentType →
    request.taken = [.makeDirectory, .writeObject content] → HasSidecar platform root files key

variable {platform root names} {files : Files Bytes} {key : String}

theorem tidy_writeSidecar (distinct : Set.InjOn platform.hexdigest names) (isName : key ∈ names)
    (tidy : Tidy platform root names files) (contentType : String) :
    Tidy platform root names
      (files.write (metadataPath platform root key) (platform.dumps (metadata key contentType))) := by
  constructor
  · intro path isListed
    rcases Files.mem_rglob.mp isListed with ⟨⟨file, isFile, isPath⟩, inside⟩
    rcases Files.mem_write.mp isFile with isSidecar | ⟨isOld, _⟩
    · rw [isSidecar] at isPath
      exact ⟨key, isName, isPath.symm⟩
    · exact tidy.owned path (Files.mem_rglob.mpr ⟨⟨file, isOld, isPath⟩, inside⟩)
  intro other isOther document found
  by_cases same : other = key
  · subst same
    rw [Files.read_write_self] at found
    exact ⟨contentType, (Option.some.inj found).symm⟩
  rw [Files.read_write_of_ne] at found
  · exact tidy.sound other isOther document found
  · intro samePath
    exact same (distinct isOther isName (digest_of_metadataPath samePath))

/-- A step that changes no sidecar keeps them tidy. -/
theorem tidy_of_same {later : Files Bytes} (tidy : Tidy platform root names files)
    (among : ∀ path ∈ later.rglob root metadataSuffix, path ∈ files.rglob root metadataSuffix)
    (same : ∀ key document, later.read (metadataPath platform root key) = some document →
      files.read (metadataPath platform root key) = some document) :
    Tidy platform root names later where
  owned path isListed := tidy.owned path (among path isListed)
  sound key isName document found := tidy.sound key isName document (same key document found)

theorem rglob_unlink {path : Path} :
    ∀ listed ∈ (files.unlink path).rglob root metadataSuffix,
      listed ∈ files.rglob root metadataSuffix := by
  intro listed isListed
  rcases Files.mem_rglob.mp isListed with ⟨⟨file, isFile, isPath⟩, inside⟩
  exact Files.mem_rglob.mpr ⟨⟨file, (Files.mem_unlink.mp isFile).1, isPath⟩, inside⟩

theorem read_of_unlink {path other : Path} {document : Bytes}
    (found : (files.unlink path).read other = some document) : files.read other = some document := by
  rw [Files.read_eq_some] at found ⊢
  exact (Files.mem_unlink.mp found).1

theorem tidy_step (distinct : Set.InjOn platform.hexdigest names) (isName : key ∈ names)
    (tidy : Tidy platform root names files) (step : FileStep) :
    Tidy platform root names (step.apply platform root key files) := by
  cases step with
  | makeDirectory => exact tidy
  | writeObject content =>
    apply tidy_of_same tidy
    · intro path isListed
      rcases Files.mem_rglob.mp isListed with ⟨⟨file, isFile, isPath⟩, inside⟩
      rcases Files.mem_write.mp isFile with isObject | ⟨isOld, _⟩
      · rw [isObject] at isPath
        rw [← isPath] at isListed
        exact absurd isListed (objectPath_not_mem_rglob _)
      · exact Files.mem_rglob.mpr ⟨⟨file, isOld, isPath⟩, inside⟩
    · intro other document found
      rw [FileStep.apply, Files.read_write_of_ne objectPath_ne_metadataPath.symm] at found
      exact found
  | writeSidecar contentType => exact tidy_writeSidecar distinct isName tidy contentType
  | unlinkObject | unlinkSidecar => exact tidy_of_same tidy rglob_unlink fun _ _ => read_of_unlink

theorem tidy_steps (distinct : Set.InjOn platform.hexdigest names) (isName : key ∈ names)
    (steps : List FileStep) (tidy : Tidy platform root names files) :
    Tidy platform root names (steps.foldl (FileStep.apply platform root key) files) := by
  induction steps generalizing files with
  | nil => exact tidy
  | cons step steps ih => exact ih (tidy_step distinct isName tidy step)

/-! ## Pairs -/

section

variable (distinct : Set.InjOn platform.hexdigest names) (isName : key ∈ names) {other : String}
  (isOther : other ∈ names) (differ : other ≠ key)
include distinct isName isOther differ

/-- The steps for one key leave the files of another one. -/
theorem read_step_of_ne (step : FileStep) :
    (step.apply platform root key files).read (objectPath platform root other) =
        files.read (objectPath platform root other) ∧
      (step.apply platform root key files).read (metadataPath platform root other) =
        files.read (metadataPath platform root other) := by
  have objects : objectPath platform root other ≠ objectPath platform root key :=
    fun samePath => differ (distinct isOther isName (digest_of_objectPath samePath))
  have sidecars : metadataPath platform root other ≠ metadataPath platform root key :=
    fun samePath => differ (distinct isOther isName (digest_of_metadataPath samePath))
  cases step with
  | makeDirectory => exact ⟨rfl, rfl⟩
  | writeObject content =>
    exact ⟨Files.read_write_of_ne objects, Files.read_write_of_ne objectPath_ne_metadataPath.symm⟩
  | writeSidecar contentType =>
    exact ⟨Files.read_write_of_ne objectPath_ne_metadataPath, Files.read_write_of_ne sidecars⟩
  | unlinkObject =>
    exact ⟨Files.read_unlink_of_ne objects,
      Files.read_unlink_of_ne objectPath_ne_metadataPath.symm⟩
  | unlinkSidecar =>
    exact ⟨Files.read_unlink_of_ne objectPath_ne_metadataPath, Files.read_unlink_of_ne sidecars⟩

theorem read_steps_of_ne (steps : List FileStep) :
    (steps.foldl (FileStep.apply platform root key) files).read (objectPath platform root other) =
        files.read (objectPath platform root other) ∧
      (steps.foldl (FileStep.apply platform root key) files).read
          (metadataPath platform root other) =
        files.read (metadataPath platform root other) := by
  induction steps generalizing files with
  | nil => exact ⟨rfl, rfl⟩
  | cons step steps ih =>
    have same := @read_step_of_ne platform root names files key distinct isName other isOther
      differ step
    rw [List.foldl_cons, ih.1, ih.2]
    exact same

end

/-- The key of a `put` that keeps pairs. -/
theorem paired_put {content : Bytes} {contentType : String} {steps : List FileStep}
    (among : steps <+: (WriteCall.put key content contentType).steps)
    (keeps : steps = [.makeDirectory, .writeObject content] → HasSidecar platform root files key)
    (paired : HasObject platform root files key → HasSidecar platform root files key) :
    HasObject platform root (steps.foldl (FileStep.apply platform root key) files) key →
      HasSidecar platform root (steps.foldl (FileStep.apply platform root key) files) key := by
  rcases List.prefix_cons_iff.mp among with none | ⟨later, isFirst, amongLater⟩
  · rw [none]
    exact paired
  subst isFirst
  rcases List.prefix_cons_iff.mp amongLater with none | ⟨last, isSecond, amongLast⟩
  · rw [none]
    exact paired
  subst isSecond
  intro _
  rcases List.prefix_cons_iff.mp amongLast with none | ⟨rest, isThird, amongRest⟩
  · subst none
    simp only [HasSidecar, List.foldl_cons, List.foldl_nil, FileStep.apply]
    rw [Files.read_write_of_ne objectPath_ne_metadataPath.symm]
    exact keeps rfl
  subst isThird
  rw [List.prefix_nil.mp amongRest]
  simp only [HasSidecar, List.foldl_cons, List.foldl_nil, FileStep.apply]
  rw [Files.read_write_self]
  rfl

/-- The key of a `delete`. -/
theorem paired_delete {steps : List FileStep} (among : steps <+: (WriteCall.delete key).steps)
    (paired : HasObject platform root files key → HasSidecar platform root files key) :
    HasObject platform root (steps.foldl (FileStep.apply platform root key) files) key →
      HasSidecar platform root (steps.foldl (FileStep.apply platform root key) files) key := by
  rcases List.prefix_cons_iff.mp among with none | ⟨last, isFirst, amongLast⟩
  · rw [none]
    exact paired
  have gone : ¬ HasObject platform root
      (steps.foldl (FileStep.apply platform root key) files) key := by
    subst isFirst
    rcases List.prefix_cons_iff.mp amongLast with none | ⟨rest, isSecond, amongRest⟩
    · subst none
      simp [HasObject, FileStep.apply]
    · subst isSecond
      rw [List.prefix_nil.mp amongRest]
      simp [HasObject, FileStep.apply, Files.read_unlink_of_ne objectPath_ne_metadataPath]
  intro stored
  exact absurd stored gone

/-- Everything stored can be listed. -/
structure Findable (platform : Platform) (root : Path) (names : Set String)
    (files : Files Bytes) : Prop where
  tidy : Tidy platform root names files
  paired : Paired platform root names files

theorem findable_perform (distinct : Set.InjOn platform.hexdigest names) {request : WriteRequest}
    (isName : request.call.key ∈ names) (keeps : KeepsPairs platform root request files)
    (findable : Findable platform root names files) :
    Findable platform root names (perform platform root files request).2 := by
  refine ⟨tidy_steps distinct isName request.taken findable.tidy, ?_⟩
  intro other isOther
  by_cases same : other = request.call.key
  · subst same
    have among := taken_isPrefix request
    have before := findable.paired _ isOther
    rcases request with ⟨call, fault⟩
    cases call with
    | put key content contentType =>
      exact paired_put among (fun isStopped => keeps key content contentType rfl isStopped) before
    | delete key => exact paired_delete among before
  have unchanged := @read_steps_of_ne platform root names files _ distinct isName other isOther
    same request.taken
  rw [perform, HasObject, HasSidecar, unchanged.1, unchanged.2]
  exact findable.paired other isOther

theorem hasSidecar_iff : HasSidecar platform root files key ↔
    metadataPath platform root key ∈ files.rglob root metadataSuffix := by
  rw [HasSidecar, Option.isSome_iff_exists, metadataPath_mem_rglob]
  constructor
  · rintro ⟨document, found⟩
    exact ⟨_, Files.read_eq_some.mp found, rfl⟩
  rintro ⟨file, isFile, isPath⟩
  refine ⟨file.content, Files.read_eq_some.mpr ?_⟩
  rw [← isPath]
  exact isFile

/-- The listed keys are those with a sidecar. -/
theorem localList_of_tidy (distinct : Set.InjOn platform.hexdigest names)
    (tidy : Tidy platform root names files) (start : String) :
    ∃ keys, localList platform root files start = .keys keys ∧ ∀ key, key ∈ keys ↔
      (key ∈ names ∧ HasSidecar platform root files key) ∧ startsWith start key = true := by
  have arranged := platform.arranged (files.rglob root metadataSuffix)
  have owned : ∀ path ∈ platform.arrange (files.rglob root metadataSuffix), ∃ owner,
      (owner ∈ names ∧ HasSidecar platform root files owner) ∧
        path = metadataPath platform root owner := by
    intro path member
    have isListed := arranged.mem_iff.mp member
    rcases tidy.owned path isListed with ⟨owner, isName, isPath⟩
    rw [isPath] at isListed
    exact ⟨owner, ⟨isName, hasSidecar_iff.mpr isListed⟩, isPath⟩
  rcases exists_owners owned with ⟨owners, arePaths, areOwners⟩
  have readable : ∀ owner ∈ owners, ∃ contentType, files.read (metadataPath platform root owner) =
      some (platform.dumps (metadata owner contentType)) := by
    intro owner isOwner
    rcases areOwners owner isOwner with ⟨isName, hasSidecar⟩
    rcases Option.isSome_iff_exists.mp hasSidecar with ⟨document, found⟩
    rcases tidy.sound owner isName document found with ⟨contentType, isDocument⟩
    exact ⟨contentType, isDocument ▸ found⟩
  refine ⟨owners.filter (startsWith start), ?_, ?_⟩
  · rw [localList, ← arePaths, listKeys_owners start readable, List.nil_append]
  intro key
  rw [List.mem_filter]
  apply and_congr_left'
  refine ⟨areOwners key, ?_⟩
  rintro ⟨isName, sidecar⟩
  have isListed : metadataPath platform root key ∈ owners.map (metadataPath platform root) := by
    rw [arePaths]
    exact arranged.mem_iff.mpr (hasSidecar_iff.mp sidecar)
  rcases List.mem_map.mp isListed with ⟨owner, isOwner, samePath⟩
  rw [← distinct (areOwners owner isOwner).1 isName (digest_of_metadataPath samePath)]
  exact isOwner

/-- Without files below the root, nothing is stored. -/
theorem findable_empty (empty : ∀ file ∈ files.rows, ¬ root <+: file.path) :
    Findable platform root names files := by
  have mirrors : Mirrors platform root names (fun _ => none) files := mirrors_empty empty
  constructor
  · constructor
    · intro path isListed
      rcases mirrors.listed path isListed with ⟨key, stored, _⟩
      cases stored
    · intro key _ document found
      refine absurd (Files.read_eq_some.mp found) fun isFile => empty _ isFile ?_
      simp [metadataPath, objectDirectory]
  · intro key isName stored
    simp [HasObject, mirrors.contents key isName] at stored

end Invariants

/-- A first `put` whose sidecar cannot be written leaves an object that no `list` names. -/
theorem unlisted_put (platform : Platform) (root : Path) (key : String) (content : Bytes)
    (contentType reason start : String) :
    let after := (perform platform root .empty
      ⟨.put key content contentType, some (.error 2 reason)⟩).2
    localGet platform root after key = .content content ∧
      localList platform root after start = .keys [] := by
  intro after
  have isAfter : after = Files.write .empty (objectPath platform root key) content := rfl
  constructor
  · rw [localGet, isAfter, Files.read_write_self]
  have none : after.rglob root metadataSuffix = [] := by
    rw [List.eq_nil_iff_forall_not_mem]
    intro path isListed
    rcases Files.mem_rglob.mp isListed with ⟨⟨file, isFile, isPath⟩, _⟩
    rw [isAfter] at isFile
    rcases Files.mem_write.mp isFile with isObject | ⟨isOld, _⟩
    · rw [← isPath, isObject] at isListed
      exact objectPath_not_mem_rglob _ isListed
    · cases isOld
  have arranged := platform.arranged []
  rw [localList, none, List.perm_nil.mp arranged]
  rfl

/-- Every stored object is listed, as long as a `put` that is stopped between its two writes
is of a key that has a sidecar already. -/
theorem stored_objects_listed (platform : Platform) (root : Path) (files : Files Bytes)
    (empty : ∀ file ∈ files.rows, ¬ root <+: file.path) (names : Set String)
    (distinct : Set.InjOn platform.hexdigest names) (requests : List WriteRequest)
    (named : ∀ request ∈ requests, request.call.key ∈ names)
    (keeps : Throughout (fun _ run => KeepsPairs platform root run.request run.before)
      (history (perform platform root) files requests))
    (key : String) (isName : key ∈ names) (content : Bytes)
    (stored : localGet platform root (served (perform platform root) files requests) key =
      .content content) :
    Lists platform root (served (perform platform root) files requests) "" key := by
  have findable : Findable platform root names
      (served (perform platform root) files requests) := by
    have meets : Throughout (fun _ run => run.request.call.key ∈ names ∧
        KeepsPairs platform root run.request run.before)
        (history (perform platform root) files requests) := by
      intro earlier run later isSplit
      exact ⟨throughout_requests named earlier run later isSplit,
        keeps earlier run later isSplit⟩
    exact @invariant_of_served _ _ _ (perform platform root) files requests _
      (fun _ state => Findable platform root names state)
      (fun _ _ _ before condition => findable_perform distinct condition.1 condition.2 before)
      (findable_empty empty) meets
  rcases localList_of_tidy distinct findable.tidy "" with ⟨keys, areKeys, isListed⟩
  refine ⟨keys, areKeys, (isListed key).mpr ⟨⟨isName, ?_⟩, by simp [startsWith]⟩⟩
  apply findable.paired key isName
  rw [localGet] at stored
  rw [HasObject]
  split at stored
  · cases stored
  · rename_i found
    rw [found]
    rfl

/-- An object is stored, and a crash stops the `put` that replaces it. -/
def replacedOnce : List WriteRequest :=
  [⟨.put "avatar" [1, 2] "image/png", none⟩, ⟨.put "avatar" [3] "image/png", some (.crash 2)⟩]

theorem replacedOnce_keepsPairs (platform : Platform) (root : Path) :
    Throughout (fun _ run => KeepsPairs platform root run.request run.before)
      (history (perform platform root) .empty replacedOnce) := by
  rw [replacedOnce, history, throughout_cons, history, throughout_cons]
  refine ⟨?_, ?_, throughout_nil⟩
  · intro key content contentType _ isStopped
    cases isStopped
  intro key content contentType isPut _
  cases isPut
  simp only [HasSidecar, finished, perform, WriteRequest.taken, WriteCall.steps,
    WriteCall.key, List.foldl_cons, List.foldl_nil, FileStep.apply]
  rw [Files.read_write_self]
  rfl

theorem replacedOnce_stored (platform : Platform) (root : Path) :
    localGet platform root (served (perform platform root) .empty replacedOnce) "avatar" =
      .content [3] := by
  simp only [localGet, replacedOnce, served, perform, WriteRequest.taken, WriteCall.steps,
    WriteCall.key, List.take_succ_cons, List.take_zero, List.foldl_cons, List.foldl_nil,
    FileStep.apply]
  rw [Files.read_write_self]

theorem stored_objects_listed_replaced :
    Lists unaryPlatform ["storage"]
      (served (perform unaryPlatform ["storage"]) .empty replacedOnce) "" "avatar" :=
  stored_objects_listed unaryPlatform ["storage"] .empty (fun _ isFile => by cases isFile)
    Set.univ unary_injective.injOn replacedOnce (fun _ _ => trivial)
    (replacedOnce_keepsPairs unaryPlatform ["storage"]) "avatar" trivial [3]
    (replacedOnce_stored unaryPlatform ["storage"])

/-- The disk is full after the object's bytes: `get` returns them, and `list` is empty. -/
theorem stored_object_unlisted :
    localGet unaryPlatform ["storage"] (served (perform unaryPlatform ["storage"]) .empty
        [⟨.put "avatar" [1, 2] "image/png", some (.error 2 "No space left on device")⟩])
        "avatar" = .content [1, 2] ∧
      ¬ Lists unaryPlatform ["storage"] (served (perform unaryPlatform ["storage"]) .empty
        [⟨.put "avatar" [1, 2] "image/png", some (.error 2 "No space left on device")⟩])
        "" "avatar" := by
  have unlisted := unlisted_put unaryPlatform ["storage"] "avatar" [1, 2] "image/png"
    "No space left on device" ""
  refine ⟨unlisted.1, ?_⟩
  rintro ⟨keys, areKeys, isKey⟩
  rw [served, served, unlisted.2] at areKeys
  cases areKeys
  cases isKey

end StarterTemplate.FileStorage
