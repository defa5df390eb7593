import StarterTemplate.Library.Table

/-!
# A file system as a map

A file system maps paths to contents.  A path is the list of its components; directories
hold nothing by themselves and are left out.
-/

namespace StarterTemplate.Library

/-- A path, by its components. -/
abbrev Path := List String

/-- A file. -/
structure File (Content : Type) where
  path : Path
  content : Content

instance (Content : Type) : Keyed (File Content) Path := ⟨File.path⟩

/-- A file system: at most one file at each path. -/
abbrev Files (Content : Type) := Table (File Content)

namespace Files

variable {Content : Type}

/-- `path.write_bytes(content)`. -/
def write (files : Files Content) (path : Path) (content : Content) : Files Content :=
  Table.put files ⟨path, content⟩

/-- `path.read_bytes()`, when the file exists. -/
def read (files : Files Content) (path : Path) : Option Content :=
  (Table.find files path).map File.content

/-- `path.unlink(missing_ok=True)`. -/
def unlink (files : Files Content) (path : Path) : Files Content := Table.without files [path]

/-- `root.rglob("*" + suffix)`: the paths below the root whose name ends with the suffix. -/
def rglob (files : Files Content) (root : Path) (suffix : String) : List Path :=
  (files.rows.map File.path).filter fun path =>
    root.isPrefixOf path && decide (root.length < path.length) &&
      suffix.toList.isSuffixOf ((path.getLast?.getD "").toList)

variable {files : Files Content} {path other : Path} {content : Content} {file : File Content}

theorem mem_write :
    file ∈ (files.write path content).rows ↔
      file = ⟨path, content⟩ ∨ (file ∈ files.rows ∧ file.path ≠ path) :=
  Table.mem_put

theorem mem_unlink :
    file ∈ (files.unlink path).rows ↔ file ∈ files.rows ∧ file.path ≠ path := by
  simp only [unlink, Table.without, List.mem_filter, decide_eq_true_eq, List.mem_singleton]
  rfl

theorem read_eq_some :
    files.read path = some content ↔ (⟨path, content⟩ : File Content) ∈ files.rows := by
  rw [read, Option.map_eq_some_iff]
  constructor
  · rintro ⟨file, found, isContent⟩
    rcases Table.find_eq_some.mp found with ⟨stored, isPath⟩
    subst isContent
    subst isPath
    exact stored
  · intro stored
    exact ⟨_, Table.find_eq_some.mpr ⟨stored, rfl⟩, rfl⟩

/-- Two file systems with the same file at a path read the same there. -/
theorem read_congr {later : Files Content}
    (same : ∀ content, (⟨path, content⟩ : File Content) ∈ later.rows ↔
      (⟨path, content⟩ : File Content) ∈ files.rows) :
    later.read path = files.read path := by
  apply Option.ext
  intro content
  rw [read_eq_some, read_eq_some]
  exact same content

@[simp] theorem read_write_self : (files.write path content).read path = some content :=
  read_eq_some.mpr (mem_write.mpr (.inl rfl))

theorem read_write_of_ne (differ : other ≠ path) :
    (files.write path content).read other = files.read other := by
  apply read_congr
  intro stored
  rw [mem_write]
  simp [differ]

@[simp] theorem read_unlink_self : (files.unlink path).read path = none := by
  rw [Option.eq_none_iff_forall_ne_some]
  intro content found
  exact (mem_unlink.mp (read_eq_some.mp found)).2 rfl

theorem read_unlink_of_ne (differ : other ≠ path) :
    (files.unlink path).read other = files.read other := by
  apply read_congr
  intro stored
  rw [mem_unlink]
  simp [differ]

theorem mem_rglob {root : Path} {suffix : String} :
    path ∈ files.rglob root suffix ↔ (∃ file ∈ files.rows, file.path = path) ∧
      root <+: path ∧ root.length < path.length ∧
        suffix.toList <:+ (path.getLast?.getD "").toList := by
  simp [rglob, and_assoc]

theorem nodup_rglob (root : Path) (suffix : String) : (files.rglob root suffix).Nodup := by
  have distinct : (files.rows.map File.path).Nodup := files.nodup
  exact distinct.filter _

end Files

end StarterTemplate.Library
