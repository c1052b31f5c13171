import Taskweavn.Lib.Delimiter
import Taskweavn.Lib.Intake
import Taskweavn.Py.Str
import Taskweavn.Skills.Policy

/-!
# The skill registry

`SkillRegistry.scan` makes a descriptor of every skill file in the configured roots
(`taskweavn/skills/registry.py`).  A file is refused by a `SkillRegistryError`, which becomes a
warning.  Every other error ends the scan: the loop does not expect one of the decoder, of YAML or
of the models.

`neverHides_iff` says when **a bad skill file never hides the others**.
-/

namespace Taskweavn.SkillRegistry

open Lib Py

/-- What ends the reading of a file: the error that the scan expects, or another one. -/
inductive Raised
  | skillRegistryError (message : String)
  | other
deriving DecidableEq

/-- What `yaml.safe_load` returns.  Of a mapping the entries with a text for their key are listed;
a `scalar` is a value of any other type. -/
inductive Yaml
  | null
  | bool (b : Bool)
  | str (s : PyStr)
  | list (items : List Yaml)
  | mapping (entries : List (String × Yaml))
  | scalar (truthy : Bool)

/-- What the code takes from elsewhere: `yaml.safe_load`, where `none` is a YAML error, the
hexadecimal SHA-256 digest of bytes, and `str.isalnum` and `str.lower` of one character. -/
structure Platform where
  safeLoad : String → Option Yaml
  sha256 : ByteArray → String
  isalnum : Char → Bool
  lower : Char → String

/-! ### Descriptors -/

inductive SkillSourceScope
  | internal
  | repo
  | workspace
  | user
  | managed
deriving DecidableEq

def SkillSourceScope.value : SkillSourceScope → String
  | .internal => "internal"
  | .repo => "repo"
  | .workspace => "workspace"
  | .user => "user"
  | .managed => "managed"

inductive SkillResourceKind
  | reference
  | script
  | asset
  | template
deriving DecidableEq

structure SkillResourceRef where
  refId : String
  kind : SkillResourceKind
  path : String
  contentHash : String
  canActAsInstruction : Bool
deriving DecidableEq

/-- A `SkillDescriptor` with all its fields.  Those without a least length hold an `S`: the scan
takes any `str` for them. -/
structure Descriptor (S : Type := String) extends SkillDescriptor S where
  name : String
  description : String
  sourceScope : SkillSourceScope
  sourceRef : String
  rootPath : Option S
  skillFilePath : Option S
  instructionBody : Option String
  enabled : Bool
  implicitInvocation : Bool
  contextRequirements : List S
  resourceRefs : List SkillResourceRef
  riskTags : List S
  outputContract : Option S

/-! ### Files and roots -/

/-- A file below one of the resource folders: where it resolves to below the folder of the skill,
if it does, and its content, if it can be read.  A path has surrogates for the bytes of a name that
is not encoded in UTF-8. -/
structure ResourceFile where
  relative : Option PyStr
  bytes : Option ByteArray

/-- `agents/openai.yaml` -/
inductive MetadataFile
  | missing
  | unreadable
  | file (bytes : ByteArray)

/-- Where a skill file resolves to, and what lies beside it there. -/
structure Place where
  folder : PyStr
  name : PyStr
  openai : MetadataFile
  resources : SkillResourceKind → List ResourceFile

def Place.path (place : Place) : PyStr := place.folder ++ .ofText "/" ++ place.name

/-- A match of `*/SKILL.md`.  It has no `place` when it resolves to one outside of its root, and no
`bytes` when it cannot be read. -/
structure SkillFile where
  entry : PyStr
  path : PyStr
  place : Option Place
  bytes : Option ByteArray

/-- What is found at a root.  The check of an `unusable` one raises an error. -/
inductive RootContent
  | unusable
  | missing
  | notDirectory
  | directory (skillFiles : List SkillFile)

structure SkillRootConfig where
  rootPath : PyStr
  content : RootContent
  sourceScope : SkillSourceScope := .workspace
  trustLevel : SkillTrustLevel := .repoTrusted
  enabled : Bool := true
  implicitInvocationDefault : Bool := true

structure SkillRegistryConfig where
  roots : List SkillRootConfig := []
  workspaceId : Option PyStr := none
  allowUntrusted : Bool := false
  maxSkills : ℤ := 100

structure SkillRegistrySnapshot where
  workspaceId : Option PyStr
  descriptors : List (Descriptor PyStr)
  warnings : List PyStr

/-! ### Reading one file -/

/-- Line ends are read as `"\n"`. -/
def universalNewlines : List Char → List Char
  | '\r' :: '\n' :: cs => '\n' :: universalNewlines cs
  | '\r' :: cs => '\n' :: universalNewlines cs
  | c :: cs => c :: universalNewlines cs
  | [] => []

/-- `read_text(encoding="utf-8")` -/
def readText (bytes : Option ByteArray) : Except Raised String :=
  match bytes.bind String.fromUTF8? with
  | some text => .ok (String.ofList (universalNewlines text.toList))
  | none => .error .other

/-- `bool(value)` -/
def Yaml.truthy : Yaml → Bool
  | .null => false
  | .bool b => b
  | .str s => s ≠ .ofText ""
  | .list items => !items.isEmpty
  | .mapping entries => !entries.isEmpty
  | .scalar truthy => truthy

/-- `data.get(key)` -/
def get? (data : List (String × Yaml)) (key : String) : Option Yaml :=
  (data.find? fun entry => entry.1 == key).map Prod.snd

variable (P : Platform)

/-- `yaml.safe_load(text) or {}` -/
def loadOrEmpty (text : String) : Except Raised Yaml :=
  match P.safeLoad text with
  | none => .error .other
  | some value => .ok (if value.truthy then value else .mapping [])

def parseFrontmatter (raw : String) : Except Raised (List (String × Yaml) × String) :=
  if ¬"---\n".toList.isPrefixOf raw.toList then .error (.skillRegistryError "frontmatter_missing")
  else
    match cutAt "\n---".toList (raw.toList.drop 4) with
    | none => .error (.skillRegistryError "frontmatter_unclosed")
    | some (header, rest) =>
      (loadOrEmpty P (String.ofList header)).bind fun loaded =>
        match loaded with
        | .mapping entries => .ok (entries, String.ofList (rest.dropWhile (· == '\n')))
        | _ => .error (.skillRegistryError "frontmatter_not_mapping")

/-- What `encode` makes of a string, and a model for a field with a least length. -/
def checked (s : PyStr) : Except Raised String :=
  match s.text? with
  | some text => .ok text
  | none => .error .other

/-- A string that is not blank, without the white space around it. -/
def filled (value : Yaml) : Option PyStr :=
  match value with
  | .str s => if s.strip = .ofText "" then none else some s.strip
  | _ => none

def requiredStr (data : List (String × Yaml)) (key : String) : Except Raised PyStr :=
  match (get? data key).bind filled with
  | some value => .ok value
  | none => .error (.skillRegistryError (key ++ "_missing"))

def optionalStr (data : List (String × Yaml)) (key : String) : Except Raised (Option PyStr) :=
  match get? data key with
  | none | some .null => .ok none
  | some value =>
    match filled value with
    | some value => .ok (some value)
    | none => .error (.skillRegistryError (key ++ "_invalid"))

def optionalBool (data : List (String × Yaml)) (key : String) (default : Option Bool) :
    Except Raised (Option Bool) :=
  match get? data key with
  | none | some .null => .ok default
  | some (.bool value) => .ok (some value)
  | some _ => .error (.skillRegistryError (key ++ "_invalid"))

def stringTuple (value : Option Yaml) : Except Raised (List PyStr) :=
  match value with
  | none | some .null => .ok []
  | some (.str s) => .ok (if s = .ofText "" then [] else [s])
  | some (.list items) =>
    match items.mapM filled with
    | some values => .ok values
    | none => .error (.skillRegistryError "string_list_invalid")
  | some _ => .error (.skillRegistryError "string_list_invalid")

def loadOpenaiMetadata : MetadataFile → Except Raised (List (String × Yaml))
  | .missing => .ok []
  | .unreadable => .error .other
  | .file bytes =>
    (readText (some bytes)).bind fun text => (loadOrEmpty P text).bind fun loaded =>
      match loaded with
      | .mapping entries => .ok entries
      | _ => .ok []

def openaiImplicitInvocation (metadata : List (String × Yaml)) : Option Bool :=
  match get? metadata "policy" with
  | some (.mapping policy) =>
    match get? policy "allow_implicit_invocation" with
    | some (.bool value) => some value
    | _ => none
  | _ => none

/-- `_slug`; a surrogate is not alphanumeric. -/
def slug (name : PyStr) : String :=
  let chars := (name.strip : List _).flatMap fun n =>
    match PyStr.char? n with
    | some c => if P.isalnum c then (P.lower c).toList else ['-']
    | none => ['-']
  let slug := String.intercalate "-" (((chars.splitOn '-').filter (· ≠ [])).map String.ofList)
  if slug = "" then "skill" else slug

def shortHash (text : PyStr) : Except Raised String :=
  (checked text).map fun text => String.ofList ((P.sha256 text.toUTF8).toList.take 12)

def hashFiles (files : List (PyStr × ByteArray)) : Except Raised String :=
  (files.foldlM (fun hashed file => (checked file.1).map fun path =>
    hashed ++ path.toUTF8 ++ ⟨#[0]⟩ ++ file.2 ++ ⟨#[0]⟩) ByteArray.empty).map fun hashed =>
      "sha256:" ++ P.sha256 hashed

/-- `_metadata_files`, with the content. -/
def metadataFiles (place : Place) : List (PyStr × ByteArray) :=
  match place.openai with
  | .file bytes => [(place.folder ++ .ofText "/agents/openai.yaml", bytes)]
  | _ => []

def resourceRefs (place : Place) (skillId : PyStr) : Except Raised (List SkillResourceRef) :=
  let kinds : List SkillResourceKind := [.reference, .script, .asset, .template]
  (kinds.flatMap fun kind => (place.resources kind).filterMap fun file =>
    file.relative.map fun relative => (kind, relative, file.bytes)).mapM
    fun (kind, relative, bytes) =>
      match bytes with
      | none => .error .other
      | some bytes => (checked relative).bind fun path => (checked skillId).map fun skillId => {
        refId := skillId ++ ":" ++ path
        kind := kind
        path := path
        contentHash := "sha256:" ++ P.sha256 bytes
        canActAsInstruction := kind = .reference ∨ kind = .template }

/-- The entry of `key`, or else that of `other`. -/
def getOr (data : List (String × Yaml)) (key other : String) : Option Yaml :=
  (get? data key).or (get? data other)

/-- The id that is given, or one from the name and the path. -/
def skillIdOf (root : SkillRootConfig) (frontmatter : List (String × Yaml)) (name path : PyStr) :
    Except Raised PyStr :=
  (optionalStr frontmatter "skill_id").bind fun given =>
    match given with
    | some skillId => .ok skillId
    | none => (shortHash P path).map fun hash =>
      .ofText (root.sourceScope.value ++ ":" ++ slug P name ++ ":" ++ hash)

def descriptorFromSkillFile (allowUntrusted : Bool) (root : SkillRootConfig) (file : SkillFile) :
    Except Raised (Descriptor PyStr) := do
  let place ← match file.place with
    | none => .error (.skillRegistryError "skill_file_outside_root")
    | some place => .ok place
  let raw ← readText file.bytes
  let (frontmatter, _) ← parseFrontmatter P raw
  let name ← requiredStr frontmatter "name"
  let description ← requiredStr frontmatter "description"
  let metadataEnabled ← optionalBool frontmatter "enabled" (some true)
  let metadataImplicit ← optionalBool frontmatter "implicit_invocation" none
  let openaiMetadata ← loadOpenaiMetadata P place.openai
  if root.trustLevel = .untrusted ∧ ¬allowUntrusted then
    .error (.skillRegistryError "skill_untrusted")
  let skillId ← skillIdOf P root frontmatter name place.path
  let contentHash ← hashFiles P
    ((place.path, file.bytes.getD ByteArray.empty) :: metadataFiles place)
  let resourceRefs ← resourceRefs P place skillId
  let requestedTools ← stringTuple (getOr frontmatter "requested_tools" "tool_requirements")
  let deniedTools ← stringTuple (getOr frontmatter "denied_tools" "tool_denials")
  let requiresApproval ←
    stringTuple (getOr frontmatter "requires_approval" "approval_requirements")
  let fileScopes ← stringTuple (get? frontmatter "file_scopes")
  let toolPolicy : SkillToolPolicy PyStr :=
    { requestedTools, deniedTools, requiresApproval, fileScopes }
  let contextRequirements ← stringTuple (get? frontmatter "context_requirements")
  let riskTags ← stringTuple (get? frontmatter "risk_tags")
  let outputContract ← optionalStr frontmatter "output_contract"
  return {
    skillId := ← checked skillId
    name := ← checked name
    description := ← checked description
    sourceScope := root.sourceScope
    sourceRef := ← checked place.path
    rootPath := some place.folder
    skillFilePath := some place.path
    instructionBody := none
    contentHash := contentHash
    enabled := root.enabled && metadataEnabled.getD true
    implicitInvocation := (metadataImplicit.or (openaiImplicitInvocation openaiMetadata)).getD
      root.implicitInvocationDefault
    trustLevel := root.trustLevel
    toolPolicy := toolPolicy
    contextRequirements := contextRequirements
    resourceRefs := resourceRefs
    riskTags := riskTags
    outputContract := outputContract }

/-! ### The scan -/

/-- `SkillRegistry.from_descriptors` -/
def fromDescriptors (workspaceId : Option PyStr) (descriptors : List (Descriptor PyStr))
    (warnings : List PyStr) : SkillRegistrySnapshot where
  workspaceId := workspaceId
  descriptors := sortOn (fun d => toLex (d.sourceScope.value, toLex (d.name,
    toLex (d.sourceRef, d.skillId)))) descriptors
  warnings := warnings

/-- What the loop of the scan makes of a file. -/
def verdict (allowUntrusted : Bool) (found : SkillRootConfig × SkillFile) :
    Verdict (Descriptor PyStr) PyStr :=
  match descriptorFromSkillFile P allowUntrusted found.1 found.2 with
  | .ok descriptor => .take descriptor
  | .error (.skillRegistryError message) => .refuse (found.2.path ++ .ofText (":" ++ message))
  | .error .other => .fail

/-- The skill files of a root, or the warning that there is no such folder. -/
def rootGroup (root : SkillRootConfig) : Option (Group (SkillRootConfig × SkillFile) PyStr) :=
  match root.content with
  | .unusable => none
  | .missing => some { opening := [.ofText "skill_root_missing:" ++ root.rootPath] }
  | .notDirectory => some { opening := [.ofText "skill_root_not_directory:" ++ root.rootPath] }
  | .directory skillFiles =>
    some { items := (sortOn SkillFile.entry skillFiles).map fun file => (root, file) }

/-- How many skills are accepted.  A negative limit is reached at once, as `0` is. -/
def SkillRegistryConfig.limit (config : SkillRegistryConfig) : ℕ := config.maxSkills.toNat

/-- `SkillRegistry.scan` -/
def scan (config : SkillRegistryConfig) : Option SkillRegistrySnapshot :=
  (Intake.takeGroups (verdict P config.allowUntrusted) config.limit (.ofText "max_skills_exceeded")
    (config.roots.map rootGroup) {}).map fun intake =>
      fromDescriptors config.workspaceId intake.taken intake.notes

/-- `SkillRegistry.get` -/
def SkillRegistrySnapshot.get (registry : SkillRegistrySnapshot) (skillId : String) :
    Option (Descriptor PyStr) :=
  registry.descriptors.find? fun descriptor => descriptor.skillId == skillId

/-! ### A bad skill file never hides the others -/

/-- The roots that can be looked at, in order, each with its skill files. -/
def SkillRegistryConfig.groups (config : SkillRegistryConfig) :
    List (Group (SkillRootConfig × SkillFile) PyStr) :=
  config.roots.filterMap rootGroup

/-- The skill files of all roots in the order of the scan. -/
def SkillRegistryConfig.found (config : SkillRegistryConfig) : List (SkillRootConfig × SkillFile) :=
  config.groups.flatMap Group.items

def SkillRegistryConfig.only (config : SkillRegistryConfig) (found : SkillRootConfig × SkillFile) :
    SkillRegistryConfig :=
  { config with roots := [{ found.1 with content := .directory [found.2] }] }

/-- A file that is read to a descriptor. -/
def wellFormed (config : SkillRegistryConfig) (found : SkillRootConfig × SkillFile) : Bool :=
  (descriptorFromSkillFile P config.allowUntrusted found.1 found.2).isOk

/-- What a registry owes to the files it was scanned from.  The `warned` part lists one warning for
each file that is not among the first accepted ones. -/
structure NeverHides (config : SkillRegistryConfig) (registry : SkillRegistrySnapshot) : Prop where
  kept : ∀ found ∈ (config.found.filter (wellFormed P config)).take config.limit,
    ∃ descriptor ∈ registry.descriptors,
      (scan P (config.only found)).map SkillRegistrySnapshot.descriptors = some [descriptor]
  warned : registry.warnings = Intake.groupNotes (verdict P config.allowUntrusted)
    (Intake.notesEach (verdict P config.allowUntrusted) config.limit
      (.ofText "max_skills_exceeded")) 0
    config.groups
  distinct : (registry.descriptors.map fun descriptor => descriptor.skillId).Nodup
  current : ∀ descriptor ∈ registry.descriptors,
    registry.get descriptor.skillId = some descriptor ∧
      currentDescriptor (registry.descriptors.map Descriptor.toSkillDescriptor)
          ⟨descriptor.skillId, descriptor.contentHash⟩ = some descriptor.toSkillDescriptor

def acceptedSkills (config : SkillRegistryConfig) : List (Descriptor PyStr) :=
  (Intake.accepted (verdict P config.allowUntrusted) config.found).take config.limit

/-- What a scan needs: roots that can be looked at, no file that raises another error before the
limit is reached, at most the last file of a root behind the limit, and ids of their own. -/
structure Scannable (config : SkillRegistryConfig) : Prop where
  usable : ∀ root ∈ config.roots, root.content ≠ .unusable
  expected : Intake.NoFailure (verdict P config.allowUntrusted) config.limit 0 config.found
  limited : Intake.LastsBehind (verdict P config.allowUntrusted) config.limit 0 config.groups
  distinct : ((acceptedSkills P config).map fun descriptor => descriptor.skillId).Nodup

variable {P} {config : SkillRegistryConfig} {registry : SkillRegistrySnapshot}

theorem rootGroup_eq_none_iff {root : SkillRootConfig} :
    rootGroup root = none ↔ root.content = .unusable := by
  unfold rootGroup
  cases root.content <;> simp

theorem map_rootGroup (h : ∀ root ∈ config.roots, root.content ≠ .unusable) :
    config.roots.map rootGroup = config.groups.map some := by
  rw [SkillRegistryConfig.groups, List.map_filterMap, ← List.filterMap_eq_map]
  apply List.filterMap_congr
  intro root hroot
  cases hgroup : rootGroup root with
  | none => exact absurd (rootGroup_eq_none_iff.mp hgroup) (h root hroot)
  | some group => simp [hgroup]

/-- **A scan returns** when the roots can be looked at and no file that is reached raises another
error. -/
theorem scan_eq_some_iff :
    scan P config = some registry ↔ (∀ root ∈ config.roots, root.content ≠ .unusable) ∧
      Intake.NoFailure (verdict P config.allowUntrusted) config.limit 0 config.found ∧
      registry = fromDescriptors config.workspaceId (acceptedSkills P config)
        (Intake.groupNotes (verdict P config.allowUntrusted)
          (Intake.notesOf (verdict P config.allowUntrusted) config.limit
          (.ofText "max_skills_exceeded")) 0
          config.groups) := by
  by_cases husable : ∀ root ∈ config.roots, root.content ≠ .unusable
  · rw [scan, map_rootGroup husable, Option.map_eq_some_iff, and_iff_right husable]
    constructor
    · rintro ⟨intake, hintake, rfl⟩
      obtain ⟨hno, rfl⟩ := Intake.takeGroups_start_eq_some_iff.mp hintake
      exact ⟨hno, rfl⟩
    · rintro ⟨hno, rfl⟩
      exact ⟨_, Intake.takeGroups_start_eq_some_iff.mpr ⟨hno, rfl⟩, rfl⟩
  · have hnone : none ∈ config.roots.map rootGroup := by
      push Not at husable
      obtain ⟨root, hroot, hcontent⟩ := husable
      exact List.mem_map.mpr ⟨root, hroot, rootGroup_eq_none_iff.mpr hcontent⟩
    rw [scan, Intake.takeGroups_eq_none hnone]
    exact ⟨(fun h => nomatch h), fun h => absurd h.1 husable⟩

theorem taken_verdict {allowUntrusted : Bool} {found : SkillRootConfig × SkillFile} :
    (verdict P allowUntrusted found).taken =
      (descriptorFromSkillFile P allowUntrusted found.1 found.2).toOption := by
  unfold verdict
  rcases descriptorFromSkillFile P allowUntrusted found.1 found.2 with (_ | _) | descriptor <;> rfl

theorem wellFormed_eq (config : SkillRegistryConfig) :
    wellFormed P config = fun found => (verdict P config.allowUntrusted found).taken.isSome := by
  funext found
  rw [taken_verdict, wellFormed]
  cases descriptorFromSkillFile P config.allowUntrusted found.1 found.2 <;> rfl

theorem scan_only {found : SkillRootConfig × SkillFile} {descriptor : Descriptor PyStr}
    (h : (verdict P config.allowUntrusted found).taken = some descriptor)
    (hlimit : 0 < config.limit) :
    (scan P (config.only found)).map SkillRegistrySnapshot.descriptors = some [descriptor] := by
  have hverdict : verdict P config.allowUntrusted
      ({ found.1 with content := .directory [found.2] }, found.2) = .take descriptor := by
    rw [show verdict P config.allowUntrusted
      ({ found.1 with content := .directory [found.2] }, found.2) =
        verdict P config.allowUntrusted found from rfl]
    cases hv : verdict P config.allowUntrusted found with
    | take d =>
      rw [hv] at h
      rw [Option.some.inj h]
    | refuse note =>
      rw [hv] at h
      exact nomatch h
    | fail =>
      rw [hv] at h
      exact nomatch h
  have hrun : Intake.takeGroups (verdict P config.allowUntrusted) config.limit
    (.ofText "max_skills_exceeded")
      ((config.only found).roots.map rootGroup) {} = some ⟨[descriptor], []⟩ := by
    show (Intake.takeIn _ _ _ [_] _).bind _ = _
    rw [Intake.takeIn, if_neg (by simpa using hlimit.ne'), hverdict]
    rfl
  rw [scan, show (config.only found).limit = config.limit from rfl,
    show (config.only found).allowUntrusted = config.allowUntrusted from rfl, hrun]
  rfl

theorem find?_id_eq_some {α : Type*} {id : α → String} {skills : List α} {skill : α}
    (hdistinct : (skills.map id).Nodup) (hmem : skill ∈ skills) :
    skills.find? (fun other => id other == id skill) = some skill := by
  induction skills with
  | nil => exact absurd hmem List.not_mem_nil
  | cons first rest ih =>
    rw [List.map_cons, List.nodup_cons] at hdistinct
    rcases List.mem_cons.mp hmem with rfl | hrest
    · rw [List.find?_cons_of_pos (by simp)]
    · have hne : id first ≠ id skill := fun heq =>
        hdistinct.1 (heq ▸ List.mem_map_of_mem hrest)
      rw [List.find?_cons_of_neg (by simpa using hne), ih hdistinct.2 hrest]

theorem currentDescriptor_eq_some {descriptors : List (SkillDescriptor PyStr)}
    {descriptor : SkillDescriptor PyStr}
    (hdistinct : (descriptors.map SkillDescriptor.skillId).Nodup)
    (hmem : descriptor ∈ descriptors) :
    currentDescriptor descriptors ⟨descriptor.skillId, descriptor.contentHash⟩ =
      some descriptor := by
  rw [currentDescriptor, registryGet, find?_id_eq_some hdistinct hmem]
  simp

/-- **A bad skill file never hides the others** exactly when the roots are scannable. -/
theorem neverHides_iff (P : Platform) (config : SkillRegistryConfig) :
    (∃ registry, scan P config = some registry ∧ NeverHides P config registry) ↔
      Scannable P config := by
  constructor
  · rintro ⟨registry, hscan, h⟩
    obtain ⟨husable, hexpected, rfl⟩ := scan_eq_some_iff.mp hscan
    refine ⟨husable, hexpected, Intake.groupNotes_eq_iff.mp h.warned, ?_⟩
    exact ((sortOn_perm _ _).map _).nodup_iff.mp h.distinct
  · intro h
    refine ⟨_, scan_eq_some_iff.mpr ⟨h.usable, h.expected, rfl⟩, ?_⟩
    have hdistinct := ((sortOn_perm (fun d : Descriptor PyStr => toLex (d.sourceScope.value,
      toLex (d.name, toLex (d.sourceRef, d.skillId)))) (acceptedSkills P config)).map
        fun d => d.skillId).nodup_iff.mpr h.distinct
    refine ⟨?_, Intake.groupNotes_eq_iff.mpr h.limited, hdistinct, ?_⟩
    · intro found hfound
      have hlimit : 0 < config.limit := by
        by_contra hzero
        rw [Nat.eq_zero_of_not_pos hzero] at hfound
        exact absurd hfound (by simp)
      rw [wellFormed_eq] at hfound
      have hsome := List.of_mem_filter (List.mem_of_mem_take hfound)
      obtain ⟨descriptor, hdescriptor⟩ := Option.isSome_iff_exists.mp hsome
      exact ⟨descriptor, mem_sortOn.mpr (Intake.mem_take_accepted hdescriptor hfound),
        scan_only hdescriptor hlimit⟩
    · intro descriptor hmem
      refine ⟨find?_id_eq_some hdistinct hmem,
        currentDescriptor_eq_some ?_ (List.mem_map_of_mem hmem)⟩
      rw [List.map_map]
      exact hdistinct

def oneHeader : Platform where
  safeLoad := fun text => if text = "name: Review\ndescription: Review a change." then
    some (.mapping [("name", .str (.ofText "Review")),
      ("description", .str (.ofText "Review a change."))])
    else none
  sha256 := fun bytes => toString bytes.size
  isalnum := Char.isAlphanum
  lower := fun c => String.singleton c.toLower

/-- A skill file that lies in the folder `entry` of the root `skills`. -/
def fileIn (entry : String) (bytes : ByteArray) : SkillFile where
  entry := .ofText entry
  path := .ofText ("/skills/" ++ entry ++ "/SKILL.md")
  place := some ⟨.ofText ("/skills/" ++ entry), .ofText "SKILL.md", .missing, fun _ => []⟩
  bytes := some bytes

def reviewFile : SkillFile :=
  fileIn "review" "---\nname: Review\ndescription: Review a change.\n---\n".toUTF8

/-- A skill, and beside it a file that is not encoded in UTF-8. -/
def undecodableBeside : SkillRegistryConfig where
  roots := [⟨.ofText "/skills", .directory [reviewFile, fileIn "latin" ⟨#[0xff]⟩], .workspace,
    .repoTrusted, true, true⟩]

/-- The file that cannot be decoded hides the other one: the scan raises an error. -/
theorem not_neverHides_undecodable :
    ¬∃ registry, scan oneHeader undecodableBeside = some registry ∧
      NeverHides oneHeader undecodableBeside registry := by
  rintro ⟨registry, hscan, -⟩
  have hnone : (scan oneHeader undecodableBeside).isNone = true := by decide +kernel
  rw [hscan] at hnone
  exact nomatch hnone

/-- Alone the skill is found. -/
example : (scan oneHeader { roots := [⟨.ofText "/skills", .directory [reviewFile], .workspace,
    .repoTrusted, true, true⟩] }).map (fun registry => registry.descriptors.map fun d => d.name) =
      some ["Review"] := by
  decide +kernel

end Taskweavn.SkillRegistry
