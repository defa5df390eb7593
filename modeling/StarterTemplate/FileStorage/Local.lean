import Mathlib.Data.Set.Function
import StarterTemplate.FileStorage.Storage
import StarterTemplate.Library.Files
import StarterTemplate.Library.Serial
import StarterTemplate.Library.Texts

/-!
# The local file storage

`LocalFileStorageAdapter` over a file system: an object is a file under the digest of its
key, next to a sidecar with the key.  The answers are those of a map from keys to contents,
whatever the order in which the file system lists the sidecars.  Errors of the operating
system, which every method turns into `StorageBackendError`, are left out.
-/

namespace StarterTemplate.FileStorage

open Library

abbrev Bytes := List UInt8

/-! ## The adapter -/

/-- `_METADATA_SUFFIX`. -/
def metadataSuffix : String := ".meta.json"

/-- The document of a sidecar. -/
def metadata (key contentType : String) : Json :=
  .obj [("key", .str key), ("content_type", .str contentType)]

/-- What the adapter takes from its libraries: `sha256(key.encode()).hexdigest()`, the JSON
codec over UTF-8, and the order in which `rglob` lists the paths. -/
structure Platform where
  hexdigest : String → String
  hex : ∀ key, ∀ character ∈ (hexdigest key).toList, character ∈ "0123456789abcdef".toList
  dumps : Json → Bytes
  loads : Bytes → Option Json
  roundTrip : ∀ key contentType,
    loads (dumps (metadata key contentType)) = some (metadata key contentType)
  arrange : List Path → List Path
  arranged : ∀ paths, (arrange paths).Perm paths

/-- The name without its last suffix.  A dot at either end starts no suffix. -/
def stem (name : List Char) : List Char :=
  let after := name.reverse.takeWhile (· ≠ '.')
  let before := (name.reverse.dropWhile (· ≠ '.')).drop 1
  if after = [] ∨ before = [] then name else before.reverse

/-- `path.with_suffix(suffix)`, for the name of the path. -/
def withSuffix (name suffix : String) : String := String.ofList (stem name.toList) ++ suffix

/-- How a call ends. -/
inductive StorageAnswer where
  | done
  | content (content : Bytes)
  | keys (keys : List String)
  /-- `ObjectNotFoundError(key)`. -/
  | notFound (key : String)
  /-- An exception that the adapter does not catch. -/
  | raised (exception : String)
  deriving DecidableEq

section Adapter

variable (platform : Platform) (root : Path)

/-- The directory of an object. -/
def objectDirectory (key : String) : Path :=
  let digest := (platform.hexdigest key).toList
  root ++ [String.ofList (digest.take 2), String.ofList ((digest.drop 2).take 2)]

/-- `_object_path`. -/
def objectPath (key : String) : Path :=
  objectDirectory platform root key ++ [platform.hexdigest key]

/-- `_metadata_path`. -/
def metadataPath (key : String) : Path :=
  objectDirectory platform root key ++ [withSuffix (platform.hexdigest key) metadataSuffix]

/-- `put`. -/
def localPut (files : Files Bytes) (key : String) (content : Bytes) (contentType : String) :
    StorageAnswer × Files Bytes :=
  (.done, (files.write (objectPath platform root key) content).write
    (metadataPath platform root key) (platform.dumps (metadata key contentType)))

/-- `get`. -/
def localGet (files : Files Bytes) (key : String) : StorageAnswer :=
  match files.read (objectPath platform root key) with
  | none => .notFound key
  | some content => .content content

/-- `delete`. -/
def localDelete (files : Files Bytes) (key : String) : StorageAnswer × Files Bytes :=
  (.done, (files.unlink (objectPath platform root key)).unlink (metadataPath platform root key))

/-- The loop of `list` over the sidecars: a document that is no JSON is skipped, and one that
is no object has no `get`. -/
def listKeys (files : Files Bytes) (start : String) : List Path → List String → StorageAnswer
  | [], keys => .keys keys
  | path :: paths, keys =>
    match (files.read path).bind platform.loads with
    | none => listKeys files start paths keys
    | some (.obj payload) =>
      match Dict.get payload "key" with
      | some (.str key) =>
        if startsWith start key then listKeys files start paths (keys ++ [key])
        else listKeys files start paths keys
      | _ => listKeys files start paths keys
    | some _ => .raised "AttributeError"

/-- `list`. -/
def localList (files : Files Bytes) (start : String) : StorageAnswer :=
  listKeys platform files start (platform.arrange (files.rglob root metadataSuffix)) []

/-- A call of the port. -/
inductive StorageCall where
  | put (key : String) (content : Bytes) (contentType : String)
  | get (key : String)
  | delete (key : String)
  | list (start : String)

/-- One call. -/
def serveLocal (files : Files Bytes) : StorageCall → StorageAnswer × Files Bytes
  | .put key content contentType => localPut platform root files key content contentType
  | .get key => (localGet platform root files key, files)
  | .delete key => localDelete platform root files key
  | .list start => (localList platform root files start, files)

end Adapter

/-! ## The paths -/

section Paths

variable {platform : Platform} {root : Path} {left right key : String}

theorem stem_of_no_dot {name : List Char} (noDot : '.' ∉ name) : stem name = name := by
  have nothing : name.reverse.dropWhile (fun character => decide (character ≠ '.')) = [] := by
    rw [List.dropWhile_eq_nil_iff]
    intro character member
    rw [decide_eq_true_eq]
    rintro rfl
    exact noDot (List.mem_reverse.mp member)
  simp only [stem, nothing, List.drop_nil, or_true, if_true]

theorem no_dot_hexdigest (key : String) : '.' ∉ (platform.hexdigest key).toList := by
  intro isDot
  exact absurd (platform.hex key '.' isDot) (by decide)

theorem getLast_objectPath : (objectPath platform root key).getLast? =
    some (platform.hexdigest key) := by
  rw [objectPath, List.getLast?_append_of_ne_nil _ (List.cons_ne_nil _ _)]
  rfl

theorem getLast_metadataPath : (metadataPath platform root key).getLast? =
    some (platform.hexdigest key ++ metadataSuffix) := by
  rw [metadataPath, List.getLast?_append_of_ne_nil _ (List.cons_ne_nil _ _), withSuffix,
    stem_of_no_dot (no_dot_hexdigest key), String.ofList_toList]
  rfl

/-- The digest can be read off the path of an object. -/
theorem digest_of_objectPath (same : objectPath platform root left = objectPath platform root right) :
    platform.hexdigest left = platform.hexdigest right := by
  have last := congrArg List.getLast? same
  rw [getLast_objectPath, getLast_objectPath] at last
  exact Option.some.inj last

/-- The digest can be read off the path of a sidecar. -/
theorem digest_of_metadataPath
    (same : metadataPath platform root left = metadataPath platform root right) :
    platform.hexdigest left = platform.hexdigest right := by
  have last := congrArg List.getLast? same
  rw [getLast_metadataPath, getLast_metadataPath] at last
  exact (String.append_left_inj metadataSuffix).mp (Option.some.inj last)

theorem not_suffix_hexdigest (key : String) :
    ¬ metadataSuffix.toList <:+ (platform.hexdigest key).toList := by
  intro isSuffix
  exact no_dot_hexdigest key (isSuffix.subset (by decide))

/-- No object is stored in the place of a sidecar. -/
theorem objectPath_ne_metadataPath :
    objectPath platform root left ≠ metadataPath platform root right := by
  intro same
  have last := congrArg List.getLast? same
  rw [getLast_objectPath, getLast_metadataPath, Option.some.injEq] at last
  have isSuffix : metadataSuffix.toList <:+ (platform.hexdigest left).toList := by
    rw [last, String.toList_append]
    exact List.suffix_append _ _
  exact not_suffix_hexdigest left isSuffix

/-- No object is taken for a sidecar. -/
theorem objectPath_not_mem_rglob (files : Files Bytes) :
    objectPath platform root key ∉ files.rglob root metadataSuffix := by
  intro isListed
  have isSuffix := (Files.mem_rglob.mp isListed).2.2.2
  rw [getLast_objectPath] at isSuffix
  exact not_suffix_hexdigest key isSuffix

/-- A sidecar that exists is listed. -/
theorem metadataPath_mem_rglob {files : Files Bytes} :
    metadataPath platform root key ∈ files.rglob root metadataSuffix ↔
      ∃ file ∈ files.rows, file.path = metadataPath platform root key := by
  have below : root <+: metadataPath platform root key ∧
      root.length < (metadataPath platform root key).length := by
    simp [metadataPath, objectDirectory]
  have isSuffix : metadataSuffix.toList <:+
      ((metadataPath platform root key).getLast?.getD "").toList := by
    rw [getLast_metadataPath, Option.getD_some, String.toList_append]
    exact List.suffix_append _ _
  rw [Files.mem_rglob]
  exact ⟨fun listed => listed.1, fun stored => ⟨stored, below.1, below.2, isSuffix⟩⟩

end Paths

/-! ## The map -/

/-- What a call does to the content under a key. -/
def StorageCall.effect (key : String) (content : Option Bytes) : StorageCall → Option Bytes
  | .put other bytes _ => if other = key then some bytes else content
  | .delete other => if other = key then none else content
  | .get _ | .list _ => content

/-- The content of the last `put` of the key that no `delete` of the key follows. -/
def storedContent (calls : List StorageCall) (key : String) : Option Bytes :=
  calls.foldl (StorageCall.effect key) none

/-- The keys that a call names. -/
def StorageCall.key? : StorageCall → Option String
  | .put key _ _ | .get key | .delete key => some key
  | .list _ => none

/-- The answers of a map from keys to contents.  The order of a list is free. -/
def AnswersAs (objects : String → Option Bytes) : StorageCall → StorageAnswer → Prop
  | .put _ _ _, answer | .delete _, answer => answer = .done
  | .get key, answer =>
    answer = match objects key with
      | some content => .content content
      | none => .notFound key
  | .list start, answer => ∃ keys, answer = .keys keys ∧ keys.Nodup ∧
      ∀ key, key ∈ keys ↔ (objects key).isSome = true ∧ startsWith start key = true

/-! ## The simulation -/

section Simulation

variable (platform : Platform) (root : Path) (names : Set String)

/-- The files below the root are the objects of the map and their sidecars. -/
structure Mirrors (objects : String → Option Bytes) (files : Files Bytes) : Prop where
  named : ∀ key, (objects key).isSome = true → key ∈ names
  contents : ∀ key ∈ names, files.read (objectPath platform root key) = objects key
  sidecars : ∀ key ∈ names, (objects key).isSome = true → ∃ contentType,
    files.read (metadataPath platform root key) = some (platform.dumps (metadata key contentType))
  listed : ∀ path ∈ files.rglob root metadataSuffix, ∃ key, (objects key).isSome = true ∧
    path = metadataPath platform root key

variable {platform root names} {objects : String → Option Bytes} {files : Files Bytes}

/-- The loop over sidecars appends their keys that start as wanted. -/
theorem listKeys_owners (start : String) {owners : List String} :
    ∀ {keys : List String}, (∀ key ∈ owners, ∃ contentType,
      files.read (metadataPath platform root key) =
        some (platform.dumps (metadata key contentType))) →
      listKeys platform files start (owners.map (metadataPath platform root)) keys =
        .keys (keys ++ owners.filter (startsWith start)) := by
  induction owners with
  | nil =>
    intro keys _
    rw [List.filter_nil, List.append_nil]
    rfl
  | cons key rest ih =>
    intro keys readable
    rcases readable key (.head _) with ⟨contentType, found⟩
    have later := fun other member => readable other (List.mem_cons_of_mem key member)
    have loaded : (files.read (metadataPath platform root key)).bind platform.loads =
        some (metadata key contentType) := by
      rw [found, Option.bind_some, platform.roundTrip]
    have named : Dict.get [("key", .str key), ("content_type", .str contentType)] "key" =
        some (.str key) := rfl
    simp only [List.map_cons, listKeys, loaded, metadata, named]
    by_cases matching : startsWith start key = true
    · rw [if_pos matching, ih later, List.filter_cons_of_pos matching, List.append_assoc]
      rfl
    · rw [if_neg matching, ih later, List.filter_cons_of_neg matching]

theorem exists_owners {isOwner : String → Prop} {paths : List Path}
    (listed : ∀ path ∈ paths, ∃ key, isOwner key ∧ path = metadataPath platform root key) :
    ∃ owners : List String, owners.map (metadataPath platform root) = paths ∧
      ∀ key ∈ owners, isOwner key := by
  induction paths with
  | nil => exact ⟨[], rfl, fun _ member => nomatch member⟩
  | cons path rest ih =>
    rcases listed path (.head _) with ⟨key, stored, isPath⟩
    rcases ih fun other member => listed other (List.mem_cons_of_mem path member) with
      ⟨owners, areRest, allStored⟩
    refine ⟨key :: owners, by rw [List.map_cons, areRest, isPath], ?_⟩
    intro other member
    rcases List.mem_cons.mp member with isFirst | isLater
    · rw [isFirst]
      exact stored
    · exact allStored other isLater

theorem list_of_mirrors (distinct : Set.InjOn platform.hexdigest names)
    (mirrors : Mirrors platform root names objects files) (start : String) :
    AnswersAs objects (.list start) (localList platform root files start) := by
  have arranged := platform.arranged (files.rglob root metadataSuffix)
  rcases exists_owners fun path member =>
    mirrors.listed path (arranged.mem_iff.mp member) with ⟨owners, arePaths, stored⟩
  have readable : ∀ key ∈ owners, ∃ contentType, files.read (metadataPath platform root key) =
      some (platform.dumps (metadata key contentType)) := by
    intro key isOwner
    exact mirrors.sidecars key (mirrors.named key (stored key isOwner)) (stored key isOwner)
  refine ⟨owners.filter (startsWith start), ?_, ?_, ?_⟩
  · rw [localList, ← arePaths, listKeys_owners start readable, List.nil_append]
  · have nodup : (owners.map (metadataPath platform root)).Nodup := by
      rw [arePaths]
      exact arranged.nodup_iff.mpr (Files.nodup_rglob root metadataSuffix)
    exact (List.Nodup.of_map _ nodup).filter _
  intro key
  have isOwner : key ∈ owners ↔ (objects key).isSome = true := by
    refine ⟨stored key, fun isStored => ?_⟩
    rcases mirrors.sidecars key (mirrors.named key isStored) isStored with ⟨contentType, found⟩
    have isListed : metadataPath platform root key ∈ owners.map (metadataPath platform root) := by
      rw [arePaths]
      exact arranged.mem_iff.mpr
        (metadataPath_mem_rglob.mpr ⟨_, Files.read_eq_some.mp found, rfl⟩)
    rcases List.mem_map.mp isListed with ⟨owner, member, samePath⟩
    rw [← distinct (mirrors.named owner (stored owner member)) (mirrors.named key isStored)
      (digest_of_metadataPath samePath)]
    exact member
  rw [List.mem_filter, isOwner]

theorem put_mirrors (distinct : Set.InjOn platform.hexdigest names)
    (mirrors : Mirrors platform root names objects files) {key : String} (isName : key ∈ names)
    (content : Bytes) (contentType : String) :
    Mirrors platform root names
      (fun other => StorageCall.effect other (objects other) (.put key content contentType))
      (localPut platform root files key content contentType).2 := by
  constructor
  · intro other stored
    by_cases same : key = other
    · exact same ▸ isName
    · simp only [StorageCall.effect, same, if_false] at stored
      exact mirrors.named other stored
  · intro other isOther
    simp only [localPut, StorageCall.effect]
    rw [Files.read_write_of_ne objectPath_ne_metadataPath]
    by_cases same : key = other
    · subst same
      rw [if_pos rfl, Files.read_write_self]
    · rw [if_neg same, Files.read_write_of_ne, mirrors.contents other isOther]
      intro samePath
      exact same (distinct isName isOther (digest_of_objectPath samePath).symm)
  · intro other isOther stored
    simp only [localPut]
    by_cases same : key = other
    · subst same
      exact ⟨contentType, Files.read_write_self⟩
    simp only [StorageCall.effect, same, if_false] at stored
    rw [Files.read_write_of_ne, Files.read_write_of_ne objectPath_ne_metadataPath.symm]
    · exact mirrors.sidecars other isOther stored
    · intro samePath
      exact same (distinct isName isOther (digest_of_metadataPath samePath).symm)
  intro path isListed
  rcases Files.mem_rglob.mp isListed with ⟨⟨file, isFile, rfl⟩, isPath⟩
  rcases Files.mem_write.mp isFile with isSidecar | ⟨isFile, _⟩
  · exact ⟨key, by simp [StorageCall.effect], congrArg File.path isSidecar⟩
  rcases Files.mem_write.mp isFile with isObject | ⟨isFile, _⟩
  · rw [isObject] at isListed
    exact absurd isListed (objectPath_not_mem_rglob _)
  rcases mirrors.listed file.path (Files.mem_rglob.mpr ⟨⟨file, isFile, rfl⟩, isPath⟩) with
    ⟨other, stored, samePath⟩
  refine ⟨other, ?_, samePath⟩
  by_cases same : key = other
  · simp [StorageCall.effect, same]
  · simpa [StorageCall.effect, same] using stored

theorem delete_mirrors (distinct : Set.InjOn platform.hexdigest names)
    (mirrors : Mirrors platform root names objects files) {key : String} (isName : key ∈ names) :
    Mirrors platform root names
      (fun other => StorageCall.effect other (objects other) (.delete key))
      (localDelete platform root files key).2 := by
  have still : ∀ {other}, (StorageCall.effect other (objects other) (.delete key)).isSome = true →
      key ≠ other ∧ (objects other).isSome = true := by
    intro other stored
    by_cases same : key = other
    · simp [StorageCall.effect, same] at stored
    · exact ⟨same, by simpa [StorageCall.effect, same] using stored⟩
  constructor
  · intro other stored
    exact mirrors.named other (still stored).2
  · intro other isOther
    simp only [localDelete, StorageCall.effect]
    rw [Files.read_unlink_of_ne objectPath_ne_metadataPath]
    by_cases same : key = other
    · subst same
      rw [if_pos rfl, Files.read_unlink_self]
    · rw [if_neg same, Files.read_unlink_of_ne, mirrors.contents other isOther]
      intro samePath
      exact same (distinct isName isOther (digest_of_objectPath samePath).symm)
  · intro other isOther stored
    rcases still stored with ⟨differ, isStored⟩
    simp only [localDelete]
    rw [Files.read_unlink_of_ne, Files.read_unlink_of_ne objectPath_ne_metadataPath.symm]
    · exact mirrors.sidecars other isOther isStored
    · intro samePath
      exact differ (distinct isName isOther (digest_of_metadataPath samePath).symm)
  intro path isListed
  rcases Files.mem_rglob.mp isListed with ⟨⟨file, isFile, rfl⟩, isPath⟩
  rcases Files.mem_unlink.mp isFile with ⟨isFile, notSidecar⟩
  rcases Files.mem_unlink.mp isFile with ⟨isFile, _⟩
  rcases mirrors.listed file.path (Files.mem_rglob.mpr ⟨⟨file, isFile, rfl⟩, isPath⟩) with
    ⟨other, stored, samePath⟩
  refine ⟨other, ?_, samePath⟩
  have differ : key ≠ other := by
    rintro rfl
    exact notSidecar samePath
  simpa [StorageCall.effect, differ] using stored

/-- One call answers as the map does, and leaves the files of the changed map. -/
theorem serveLocal_simulates (distinct : Set.InjOn platform.hexdigest names)
    (mirrors : Mirrors platform root names objects files) {call : StorageCall}
    (named : ∀ key, call.key? = some key → key ∈ names) :
    AnswersAs objects call (serveLocal platform root files call).1 ∧
      Mirrors platform root names (fun key => call.effect key (objects key))
        (serveLocal platform root files call).2 := by
  cases call with
  | put key content contentType =>
    exact ⟨rfl, put_mirrors distinct mirrors (named key rfl) content contentType⟩
  | get key =>
    refine ⟨?_, mirrors⟩
    rw [AnswersAs, serveLocal, localGet, mirrors.contents key (named key rfl)]
    cases objects key <;> rfl
  | delete key => exact ⟨rfl, delete_mirrors distinct mirrors (named key rfl)⟩
  | list start => exact ⟨list_of_mirrors distinct mirrors start, mirrors⟩

theorem served_mirrors (distinct : Set.InjOn platform.hexdigest names)
    {calls : List StorageCall}
    (named : ∀ call ∈ calls, ∀ key, call.key? = some key → key ∈ names) :
    ∀ {objects : String → Option Bytes} {files : Files Bytes},
      Mirrors platform root names objects files →
      Mirrors platform root names (fun key => calls.foldl (StorageCall.effect key) (objects key))
        (served (serveLocal platform root) files calls) := by
  induction calls with
  | nil => exact fun mirrors => mirrors
  | cons call rest ih =>
    intro objects files mirrors
    exact ih (fun other member => named other (List.mem_cons_of_mem call member))
      (serveLocal_simulates distinct mirrors (named call (.head _))).2

/-- Without files below the root, the storage is empty. -/
theorem mirrors_empty (empty : ∀ file ∈ files.rows, ¬ root <+: file.path) :
    Mirrors platform root names (fun _ => none) files := by
  constructor
  · simp
  · intro key _
    rw [Option.eq_none_iff_forall_ne_some]
    intro content found
    apply empty _ (Files.read_eq_some.mp found)
    simp [objectPath, objectDirectory]
  · simp
  · intro path isListed
    rcases Files.mem_rglob.mp isListed with ⟨⟨file, isFile, isPath⟩, below, _⟩
    exact absurd (isPath ▸ below) (empty file isFile)

variable (platform root files) in
/-- `list` names the key. -/
def Lists (start key : String) : Prop :=
  ∃ keys, localList platform root files start = .keys keys ∧ key ∈ keys

theorem lists_iff (distinct : Set.InjOn platform.hexdigest names)
    (mirrors : Mirrors platform root names objects files) {start key : String} :
    Lists platform root files start key ↔
      (objects key).isSome = true ∧ startsWith start key = true := by
  rcases list_of_mirrors distinct mirrors start with ⟨keys, isAnswer, _, isListed⟩
  rw [← isListed, Lists, isAnswer]
  refine ⟨?_, fun member => ⟨keys, rfl, member⟩⟩
  rintro ⟨other, same, member⟩
  cases same
  exact member

end Simulation

/-- From a root without files, every call of every sequence is answered as a map of keys to
contents answers it, and a call for one key changes the answers for no other key.  The digest
needs to be injective on the keys in question only. -/
theorem local_storage_is_map (platform : Platform) (root : Path) (files : Files Bytes)
    (empty : ∀ file ∈ files.rows, ¬ root <+: file.path) (names : Set String)
    (distinct : Set.InjOn platform.hexdigest names) (calls : List StorageCall)
    (named : ∀ call ∈ calls, ∀ key, call.key? = some key → key ∈ names) :
    (∀ earlier run later,
        history (serveLocal platform root) files calls = earlier ++ run :: later →
        AnswersAs (storedContent (earlier.map Finished.request)) run.request run.answer) ∧
      ∀ call key, call.key? = some key → key ∈ names → ∀ other ∈ names, other ≠ key →
        let before := served (serveLocal platform root) files calls
        let after := (serveLocal platform root before call).2
        localGet platform root after other = localGet platform root before other ∧
          ∀ start, Lists platform root after start other ↔
            Lists platform root before start other := by
  have start : Mirrors platform root names (fun _ => none) files := mirrors_empty empty
  constructor
  · intro earlier run later isHistory
    rcases history_split isHistory with ⟨before, after, isCalls, isEarlier, isRun⟩
    have isNamed : ∀ call ∈ before ++ [run.request], ∀ key, call.key? = some key →
        key ∈ names := by
      intro call membership
      apply named call
      rw [isCalls, List.append_cons]
      exact List.mem_append_left after membership
    have mirrors := served_mirrors distinct
      (fun call membership => isNamed call (List.mem_append_left _ membership)) start
    rw [isEarlier, map_request_history, isRun]
    exact (serveLocal_simulates distinct mirrors
      (isNamed run.request (List.mem_append_right _ List.mem_cons_self))).1
  · intro call key isKey isName other isOther differ before after
    have mirrors : Mirrors platform root names (storedContent calls) before :=
      served_mirrors distinct named start
    have callNamed : ∀ name, call.key? = some name → name ∈ names := by
      intro name isNamed
      cases isKey.symm.trans isNamed
      exact isName
    have later := (serveLocal_simulates distinct mirrors callNamed).2
    have same : call.effect other (storedContent calls other) = storedContent calls other := by
      cases call with
      | put name content contentType | delete name =>
        cases isKey
        exact if_neg differ.symm
      | get name => rfl
      | list begin => rfl
    constructor
    · rw [localGet, localGet, later.contents other isOther, mirrors.contents other isOther, same]
    · intro begin
      rw [lists_iff distinct later, lists_iff distinct mirrors, same]

/-! ### A platform that counts -/

/-- Digests and documents in unary. -/
def unaryPlatform : Platform where
  hexdigest key := String.ofList (List.replicate (textNumber key) 'a')
  hex := by
    intro key character isDigit
    rw [String.toList_ofList] at isDigit
    rw [(List.mem_replicate.mp isDigit).2]
    decide
  dumps
    | .obj [(_, .str key), (_, .str contentType)] =>
      List.replicate (Nat.pair (textNumber key) (textNumber contentType)) 0
    | _ => []
  loads bytes := some (metadata (numberText (Nat.unpair bytes.length).1)
    (numberText (Nat.unpair bytes.length).2))
  roundTrip := by
    intro key contentType
    simp only [metadata, List.length_replicate, Nat.unpair_pair, numberText_textNumber]
  arrange := List.reverse
  arranged := List.reverse_perm

theorem unary_injective : Function.Injective unaryPlatform.hexdigest := by
  intro left right same
  have lengths := congrArg (fun digest => digest.toList.length) same
  simp only [unaryPlatform, String.toList_ofList, List.length_replicate] at lengths
  rw [← numberText_textNumber left, lengths, numberText_textNumber]

/-- Two objects are stored, and one is deleted. -/
def someCalls : List StorageCall :=
  [.put "avatar" [1, 2] "image/png", .put "notes" [3] "text/plain", .delete "notes"]

theorem local_storage_is_map_unary :
    (serveLocal unaryPlatform ["storage"]
      (served (serveLocal unaryPlatform ["storage"]) .empty someCalls) (.get "avatar")).1 =
        .content [1, 2] := by
  have answers := (local_storage_is_map unaryPlatform ["storage"] .empty
    (fun _ isFile => nomatch isFile) Set.univ unary_injective.injOn
    (someCalls ++ [.get "avatar"]) (fun _ _ _ _ => trivial)).1 _ _ [] (history_append _ _)
  have stored : storedContent someCalls "avatar" = some [1, 2] := by decide
  simp only [finished, AnswersAs] at answers
  exact answers

end StarterTemplate.FileStorage
