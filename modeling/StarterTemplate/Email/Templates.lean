import Mathlib.Data.List.Basic

/-!
# The template registry

Features register their email templates under names; the registry keeps, for each name, the
subject and the path of the body file, and one search path with the directories of all files.
`render` asks jinja's loader for the file *name* alone, and the loader answers with the first file
of that name over the whole search path.
-/

namespace StarterTemplate.Email

/-- A `pathlib` path: its `parent` and its `name`. -/
structure BodyPath (Dir : Type) where
  parent : Dir
  name : String

/-- The disk: which paths exist, and what the regular files contain. -/
structure Disk (Dir Source : Type) where
  pathExists : BodyPath Dir → Bool
  read : BodyPath Dir → Option Source

/-- What the registry uses of jinja, with the messages of the template errors it raises.  The
templates of `extends` and `include` come from the loader, so rendering depends on it. -/
structure Jinja (Source Template Context : Type) where
  fromString : String → Except String Template
  compile : (name : String) → Source → Except String Template
  render : (loader : String → Option Source) → Template → Context → Except String String
  notFound : String → String
  strip : String → String

structure Entry (Dir : Type) where
  subject : String
  bodyPath : BodyPath Dir

structure EmailTemplateRegistry (Dir : Type) where
  entries : List (String × Entry Dir) := []
  isSealed : Bool := false
  searchPaths : List Dir := []

/-- The arguments of one `register_template` call. -/
structure Registration (Dir : Type) where
  name : String
  entry : Entry Dir

inductive RegistrationError (Dir : Type) where
  | registrySealed
  | alreadyRegistered (name : String)
  | fileNotFound (path : BodyPath Dir) (name : String)

inductive RenderError where
  | unknownTemplate (templateName : String)
  | templateRender (templateName reason : String)

structure RenderedEmail where
  recipient : String
  subject : String
  body : String

variable {Dir Source Template Context : Type} [DecidableEq Dir]

namespace EmailTemplateRegistry

def registerTemplate (disk : Disk Dir Source) (registry : EmailTemplateRegistry Dir)
    (registration : Registration Dir) :
    Except (RegistrationError Dir) (EmailTemplateRegistry Dir) :=
  let path := registration.entry.bodyPath
  if registry.isSealed then .error .registrySealed
  else if (registry.entries.lookup registration.name).isSome then
    .error (.alreadyRegistered registration.name)
  else if ! disk.pathExists path then .error (.fileNotFound path registration.name)
  else .ok
    { registry with
      entries := registry.entries ++ [(registration.name, registration.entry)]
      searchPaths :=
        if path.parent ∈ registry.searchPaths then registry.searchPaths
        else registry.searchPaths ++ [path.parent] }

/-- `FileSystemLoader`: the first file of the given name over the search path. -/
def loader (disk : Disk Dir Source) (registry : EmailTemplateRegistry Dir) (name : String) :
    Option Source :=
  registry.searchPaths.findSome? fun dir => disk.read ⟨dir, name⟩

/-- `environment.get_template`. -/
def getTemplate (disk : Disk Dir Source) (jinja : Jinja Source Template Context)
    (registry : EmailTemplateRegistry Dir) (name : String) : Except String Template :=
  match registry.loader disk name with
  | none => .error (jinja.notFound name)
  | some source => jinja.compile name source

/-- The subject and the body of an entry, or the template error that jinja raises. -/
def renderEntry (disk : Disk Dir Source) (jinja : Jinja Source Template Context)
    (registry : EmailTemplateRegistry Dir) (entry : Entry Dir) (context : Context) :
    Except String (String × String) := do
  let subjectTemplate ← jinja.fromString entry.subject
  let bodyTemplate ← registry.getTemplate disk jinja entry.bodyPath.name
  let subjectText ← jinja.render (registry.loader disk) subjectTemplate context
  let bodyText ← jinja.render (registry.loader disk) bodyTemplate context
  return (jinja.strip subjectText, bodyText)

def render (disk : Disk Dir Source) (jinja : Jinja Source Template Context)
    (registry : EmailTemplateRegistry Dir) (recipient templateName : String) (context : Context) :
    Except RenderError RenderedEmail :=
  match registry.entries.lookup templateName with
  | none => .error (.unknownTemplate templateName)
  | some entry =>
    match registry.renderEntry disk jinja entry context with
    | .error reason => .error (.templateRender templateName reason)
    | .ok (subject, body) => .ok ⟨recipient, subject, body⟩

end EmailTemplateRegistry

open EmailTemplateRegistry

/-- A sequence of successful `register_template` calls, from an empty registry. -/
inductive Registered (disk : Disk Dir Source) :
    List (Registration Dir) → EmailTemplateRegistry Dir → Prop where
  | empty : Registered disk [] {}
  | register {registrations : List (Registration Dir)} {registry next : EmailTemplateRegistry Dir}
      {registration : Registration Dir} (before : Registered disk registrations registry)
      (succeeds : registry.registerTemplate disk registration = .ok next) :
      Registered disk (registrations ++ [registration]) next

variable {disk : Disk Dir Source} {jinja : Jinja Source Template Context}
  {registry next : EmailTemplateRegistry Dir} {registration : Registration Dir}
  {registrations : List (Registration Dir)}

theorem registerTemplate_ok (succeeds : registry.registerTemplate disk registration = .ok next) :
    registry.entries.lookup registration.name = none ∧
      next.entries = registry.entries ++ [(registration.name, registration.entry)] ∧
      ∀ dir ∈ next.searchPaths,
        dir ∈ registry.searchPaths ∨ dir = registration.entry.bodyPath.parent := by
  unfold registerTemplate at succeeds
  dsimp only at succeeds
  split at succeeds
  · contradiction
  split at succeeds
  · contradiction
  split at succeeds
  · contradiction
  rename_i _ isNew _
  cases succeeds
  refine ⟨Option.not_isSome_iff_eq_none.mp isNew, rfl, ?_⟩
  intro dir isSearched
  split at isSearched
  · exact .inl isSearched
  · simpa using isSearched

/-- Every name leads to the entry it was registered with. -/
theorem Registered.lookup (registered : Registered disk registrations registry)
    (isRegistered : registration ∈ registrations) :
    registry.entries.lookup registration.name = some registration.entry := by
  induction registered with
  | empty => simp at isRegistered
  | register _ succeeds ih =>
    rcases registerTemplate_ok succeeds with ⟨isNew, entries, _⟩
    rw [entries, List.lookup_append]
    rcases List.mem_append.mp isRegistered with isEarlier | isLatest
    · rw [ih isEarlier]
      rfl
    · rw [List.mem_singleton.mp isLatest, isNew]
      simp

/-- The search path holds directories of registered files only. -/
theorem Registered.searched (registered : Registered disk registrations registry)
    {dir : Dir} (isSearched : dir ∈ registry.searchPaths) :
    ∃ registration ∈ registrations, registration.entry.bodyPath.parent = dir := by
  induction registered with
  | empty => simp at isSearched
  | register _ succeeds ih =>
    rcases (registerTemplate_ok succeeds).2.2 dir isSearched with isEarlier | isLatest
    · rcases ih isEarlier with ⟨registration, isRegistered, isParent⟩
      exact ⟨registration, List.mem_append_left _ isRegistered, isParent⟩
    · exact ⟨_, List.mem_append_right _ (List.mem_singleton_self _), isLatest.symm⟩

/-- The text is what jinja renders from the file at a path, compiled under the path's name. -/
def RendersFile (disk : Disk Dir Source) (jinja : Jinja Source Template Context)
    (registry : EmailTemplateRegistry Dir) (path : BodyPath Dir) (context : Context)
    (text : String) : Prop :=
  ∃ source template, disk.read path = some source ∧
    jinja.compile path.name source = .ok template ∧
    jinja.render (registry.loader disk) template context = .ok text

/-- No other directory with a registered file holds a file of this name. -/
def Unshadowed (disk : Disk Dir Source) (registrations : List (Registration Dir))
    (path : BodyPath Dir) : Prop :=
  ∀ other ∈ registrations, other.entry.bodyPath.parent ≠ path.parent →
    disk.read ⟨other.entry.bodyPath.parent, path.name⟩ = none

omit [DecidableEq Dir] in
/-- A successful rendering of an entry renders a file that the loader found. -/
theorem renderEntry_ok {entry : Entry Dir} {context : Context} {subject body : String}
    (succeeds : registry.renderEntry disk jinja entry context = .ok (subject, body)) :
    ∃ source template, registry.loader disk entry.bodyPath.name = some source ∧
      jinja.compile entry.bodyPath.name source = .ok template ∧
      jinja.render (registry.loader disk) template context = .ok body := by
  unfold renderEntry getTemplate at succeeds
  cases fromString : jinja.fromString entry.subject with
  | error reason => simp [fromString, bind, Except.bind] at succeeds
  | ok subjectTemplate =>
  cases found : registry.loader disk entry.bodyPath.name with
  | none => simp [fromString, found, bind, Except.bind] at succeeds
  | some source =>
  cases compiled : jinja.compile entry.bodyPath.name source with
  | error reason => simp [fromString, found, compiled, bind, Except.bind] at succeeds
  | ok template =>
  refine ⟨source, template, rfl, compiled, ?_⟩
  simp only [fromString, found, compiled, bind, Except.bind] at succeeds
  split at succeeds
  · contradiction
  split at succeeds
  · contradiction
  rename_i rendered
  rw [rendered]
  simp only [pure, Except.pure, Except.ok.injEq, Prod.mk.injEq] at succeeds
  rw [succeeds.2]

/-- The loader finds the registered file itself when nothing shadows it. -/
theorem Registered.loaded (registered : Registered disk registrations registry)
    {path : BodyPath Dir} (unshadowed : Unshadowed disk registrations path) {source : Source}
    (found : registry.loader disk path.name = some source) : disk.read path = some source := by
  rcases List.exists_of_findSome?_eq_some found with ⟨dir, isSearched, read⟩
  rcases registered.searched isSearched with ⟨other, isRegistered, isParent⟩
  by_cases isOwn : dir = path.parent
  · rw [isOwn] at read
    exact read
  · have hidden := unshadowed other isRegistered (by rw [isParent]; exact isOwn)
    rw [isParent, read] at hidden
    contradiction

/-- Every directory holds a `welcome.txt` that contains the directory's name. -/
def welcomeDisk : Disk String String where
  pathExists path := path.name == "welcome.txt"
  read path := if path.name = "welcome.txt" then some path.parent else none

/-- Templates without a placeholder. -/
def plainJinja : Jinja String String Unit where
  fromString := .ok
  compile _ source := .ok source
  render _ template _ := .ok template
  notFound := id
  strip := id

/-- A feature registers the welcome file of its own directory. -/
def welcome (feature : String) : Registration String :=
  ⟨feature, ⟨"Welcome", ⟨feature, "welcome.txt"⟩⟩⟩

theorem users_registered :
    Registered welcomeDisk [welcome "users"]
      { entries := [("users", (welcome "users").entry)], searchPaths := ["users"] } :=
  .register .empty rfl

end StarterTemplate.Email
