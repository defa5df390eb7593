import StarterTemplate.Library.Texts

/-!
# File storage

The objects that the file storage holds, and the operations of `FileStoragePort` as its
documentation describes them.  Whether the backend fails in a call, and with which text,
is given from outside; a call that fails stores and removes nothing.
-/

namespace StarterTemplate.FileStorage

open Library

/-- A stored object.  Its content is kept as the document that its bytes encode. -/
structure Blob where
  key : String
  content : Json

/-- The texts of an object. -/
def Blob.texts (blob : Blob) : List String := blob.key :: blob.content.texts

/-- The failures of the backend, each by its reason. -/
structure Faults where
  put : Option String
  list : Option String
  delete : String → Option String
  signedUrl : String → Except String String

/-- `str(StorageBackendError(reason))`. -/
def backendError (reason : String) : String := "Storage backend failure: " ++ reason

/-- `key.startswith(start)`. -/
def startsWith (start key : String) : Bool := start.toList.isPrefixOf key.toList

/-- `put`, which replaces an object of the same key. -/
def put (blobs : List Blob) (key : String) (content : Json) : List Blob :=
  blobs.filter (fun blob => blob.key ≠ key) ++ [⟨key, content⟩]

/-- `list`. -/
def list (blobs : List Blob) (start : String) : List String :=
  (blobs.map Blob.key).filter (startsWith start)

/-- `delete`, which does not mind a missing object. -/
def delete (blobs : List Blob) (key : String) : List Blob :=
  blobs.filter fun blob => blob.key ≠ key

variable {blobs : List Blob} {blob : Blob}

theorem mem_put {key : String} {content : Json} (isStored : blob ∈ put blobs key content) :
    blob ∈ blobs ∨ blob = ⟨key, content⟩ := by
  rcases List.mem_append.mp isStored with old | new
  · exact .inl (List.mem_filter.mp old).1
  · exact .inr (List.mem_singleton.mp new)

theorem mem_delete {key : String} : blob ∈ delete blobs key ↔ blob ∈ blobs ∧ blob.key ≠ key := by
  simp [delete]

theorem mem_list {start key : String} :
    key ∈ list blobs start ↔ (∃ blob ∈ blobs, blob.key = key) ∧ startsWith start key = true := by
  simp [list]

end StarterTemplate.FileStorage
