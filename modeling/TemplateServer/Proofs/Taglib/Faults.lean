import TemplateServer.Proofs.Taglib.Declarations
import TemplateServer.Proofs.Taglib.Scanning

/-!
Descriptors that cannot be used. A project with a broken library descriptor has
the tags that it would have without the file. An entry with a broken tag
descriptor counts as if it were not in its directory, so that definitions of the
tag at other places are seen, and no other tag is touched.
-/

namespace TemplateServer.Taglib

open FileSystem (FileRemoved)

section Libraries

variable {files after : FileSystem} {file : Path} {location : List String} {content : List UInt8}

/-- A library descriptor that cannot be read, that is no JSON or no object, or that
declares a tag by a value that cannot define one. -/
inductive BrokenLibrary (files : FileSystem) (file : Path) : Prop
  | unreadable {cause : IoError} : files.readText file = .error cause → BrokenLibrary files file
  | malformed {contents : String} : files.readText file = .ok contents →
      Json.parse? contents = none → BrokenLibrary files file
  | not_object {contents : String} {value : Json} : files.readText file = .ok contents →
      Json.parse? contents = some value → (∀ members, value ≠ .object members) →
      BrokenLibrary files file
  | invalid_tag {contents : String} {members : List (String × Json)} {key name : String}
      {value : Json} : files.readText file = .ok contents →
      Json.parse? contents = some (.object members) → (key, value) ∈ members →
      Declares key name → ¬ CanDefine value → BrokenLibrary files file

theorem broken_undescribed (broken : BrokenLibrary files file) {other : Path}
    (same : files.readText other = files.readText file) (members : List (String × Json)) :
    ¬ Describes files other members := by
  intro described
  obtain ⟨contents, read, parsed⟩ := described.parsed
  rw [same] at read
  cases broken with
  | unreadable failed =>
      rw [failed] at read
      cases read
  | malformed found malformed =>
      rw [found] at read
      cases read
      rw [malformed] at parsed
      cases parsed
  | not_object found value different =>
      rw [found] at read
      cases read
      rw [value] at parsed
      cases parsed
      exact different members rfl
  | invalid_tag found object member declares invalid =>
      rw [found] at read
      cases read
      rw [object] at parsed
      cases parsed
      have usable := (usable_iff_all_define other members).mp described.usable
      exact invalid (usable _ _ _ member declares)

/-- Whatever is spelled differently, a broken descriptor describes no library. -/
theorem broken_at_location (broken : BrokenLibrary files file)
    (there : files.resolve file = .ok (location, .file content)) {other : Path}
    {members : List (String × Json)} (described : Describes files other members)
    {found : List UInt8} {place : List String}
    (resolved : files.resolve other = .ok (place, .file found)) : place ≠ location := by
  rintro rfl
  obtain ⟨-, -, -, entry⟩ := (files.resolve_ok_iff file place (.file content)).mp there
  obtain ⟨-, -, -, again⟩ := (files.resolve_ok_iff other place (.file found)).mp resolved
  rw [entry] at again
  cases again
  apply broken_undescribed broken _ members described
  rw [FileSystem.readText, FileSystem.readText, there, resolved]

theorem describes_removed (removed : FileRemoved location files after)
    (broken : BrokenLibrary files file)
    (there : files.resolve file = .ok (location, .file content)) (other : Path)
    (members : List (String × Json)) :
    Describes files other members ↔ Describes after other members := by
  constructor
  · intro described
    obtain ⟨contents, read, parsed⟩ := described.parsed
    obtain ⟨place, found, resolved, decoded⟩ := (files.read_text_iff other contents).mp read
    have apart := broken_at_location broken there described resolved
    refine ⟨?_, ⟨contents, ?_, parsed⟩, described.usable⟩
    · exact (removed.is_file_iff other).mpr ⟨place, found, resolved, apart⟩
    · exact (removed.read_text_iff other contents).mpr ⟨place, found, resolved, apart, decoded⟩
  · intro described
    obtain ⟨contents, read, parsed⟩ := described.parsed
    obtain ⟨place, found, resolved, -, decoded⟩ := (removed.read_text_iff other contents).mp read
    refine ⟨?_, ⟨contents, ?_, parsed⟩, described.usable⟩
    · exact (files.is_file_iff other).mpr ⟨place, found, resolved⟩
    · exact (files.read_text_iff other contents).mpr ⟨place, found, resolved, decoded⟩

theorem library_removed (removed : FileRemoved location files after)
    (broken : BrokenLibrary files file)
    (there : files.resolve file = .ok (location, .file content)) (other : Path) :
    library? files other = library? after other := by
  apply Option.ext
  intro library
  rw [library_iff, library_iff]
  simp only [describes_removed removed broken there]

/-- A broken library descriptor does as little as none. -/
theorem load_without_broken_library {directory : Path} (removed : FileRemoved location files after)
    (broken : BrokenLibrary files (directory.child libraryFileName))
    (there : files.resolve (directory.child libraryFileName) = .ok (location, .file content))
    (options : DiscoveryOptions) (root : Path) :
    load files options root = load after options root := by
  obtain ⟨-, -, located, -⟩ := (files.resolve_ok_iff _ location (.file content)).mp there
  obtain ⟨parent, -, inside⟩ := files.locate_child library_file_proper located
  have ends : location.getLast? = some libraryFileName := by
    rw [inside, List.getLast?_concat]
  have unscanned : Unscanned libraryFileName := ⟨by decide, Or.inr (by decide)⟩
  have packageProper : ProperName packageFileName := ⟨by decide, by decide, by decide⟩
  have otherName : location.getLast? ≠ some packageFileName := by
    rw [ends]
    decide
  apply load_of_answers
  · exact tags_of_directory_unchanged removed.toDiffersAt ends unscanned library_file_proper
  · intro directory
    exact library_removed removed broken there _
  · intro directory
    rw [package_members_eq, package_members_eq,
      removed.read_text_child packageProper otherName directory]

end Libraries

section Tags

variable {files : FileSystem} {directory scanned : Path} {name : String}

def tagFile (directory : Path) (name : String) : Path := (directory.child name).child tagFileName

structure BrokenTag (files : FileSystem) (directory : Path) (name : String) : Prop where
  is_file : files.isFile (tagFile directory name) = true
  fails : (∃ cause, files.readText (tagFile directory name) = .error cause) ∨
    ∃ contents error, files.readText (tagFile directory name) = .ok contents ∧
      TagDefinition.ofFile name (tagFile directory name) contents = .error error

/-- A descriptor is broken by what it holds, not by the path that leads to it. -/
theorem broken_same_file (broken : BrokenTag files directory name)
    (same : files.resolve (tagFile scanned name) = files.resolve (tagFile directory name)) :
    BrokenTag files scanned name := by
  have read : files.readText (tagFile scanned name) = files.readText (tagFile directory name) := by
    rw [FileSystem.readText, FileSystem.readText, same]
  constructor
  · rw [FileSystem.isFile, same]
    exact broken.is_file
  · rcases broken.fails with unreadable | ⟨contents, error, found, failed⟩
    · rw [read]
      exact Or.inl unreadable
    · refine Or.inr ⟨contents, ?_⟩
      have undefined : ¬ ∃ definition,
          TagDefinition.ofFile name (tagFile scanned name) contents = .ok definition := by
        rw [tag_of_file_ok_iff, ← tag_of_file_ok_iff name (tagFile directory name), failed]
        intro accepted
        obtain ⟨definition, accepted⟩ := accepted
        cases accepted
      cases reread : TagDefinition.ofFile name (tagFile scanned name) contents with
      | ok definition => exact absurd ⟨definition, reread⟩ undefined
      | error other => exact ⟨other, read.trans found, rfl⟩

theorem broken_unread (broken : BrokenTag files directory name) :
    readTag? files name (tagFile directory name) = none := by
  rw [read_tag_eq]
  rcases broken.fails with ⟨cause, unreadable⟩ | ⟨contents, error, found, failed⟩
  · rw [unreadable]
    rfl
  · rw [found]
    unfold TagDefinition.ofFile at failed
    cases read : parseTag name (tagFile directory name) contents with
    | ok definition =>
        rw [read] at failed
        cases failed
    | error fault =>
        change (parseTag name (tagFile directory name) contents).toOption = none
        rw [read]
        rfl

/-- An entry with a broken descriptor is no tag. -/
theorem broken_entry (broken : BrokenTag files directory name) (owner : Option Path) :
    entryTag? files directory owner name = none := by
  have present : files.isFile ((directory.child name).child tagFileName) = true := broken.is_file
  have unread : readTag? files name ((directory.child name).child tagFileName) = none :=
    broken_unread broken
  unfold entryTag?
  dsimp only
  split
  · rfl
  · split
    · rw [tagOfDirectory?, if_pos present, unread]
      rfl
    · -- a file of a template's name holds no descriptor
      rename_i noDirectory
      by_cases spelled : name = ""
      · rw [spelled]
        rfl
      · exact absurd (files.is_directory_of_child tag_file_proper
          (directory.child_given spelled) broken.is_file) noDirectory

end Tags

section Scans

def tagsOfLibraryBy (scan : Option Path → Path → List TagDefinition) (library : Library) :
    List TagDefinition :=
  library.tagsDirs.flatMap (scan (some library.path)) ++ library.tags

def definitionsBy (scan : Option Path → Path → List TagDefinition) (files : FileSystem)
    (options : DiscoveryOptions) (root : Path) : List TagDefinition :=
  let installed :=
    if options.installedTaglibs then
      (installedLibraries files root).flatMap (tagsOfLibraryBy scan)
    else []
  let library := rootLibrary? files root
  let configured := options.tagsDirs.flatMap fun directory =>
    scan (library.map (·.path)) (root.child directory)
  let own := (library.map (tagsOfLibraryBy scan)).getD []
  installed ++ configured ++ own

def loadBy (scan : Option Path → Path → List TagDefinition) (files : FileSystem)
    (options : DiscoveryOptions) (root : Path) : Lookup :=
  Lookup.ofDefinitions root (definitionsBy scan files options root) (markoVersion? files root)

/-- The tags of a directory, where an entry of `directory` is left out. Whatever its
spelling, a path leads to the same entry if the tag descriptor there is the same
file. -/
def scanWithout (files : FileSystem) (directory : Path) (name : String) (owner : Option Path)
    (scanned : Path) : List TagDefinition :=
  (((files.list? scanned).getD []).filter fun entry =>
    !(entry == name &&
      files.resolve (tagFile scanned name) == files.resolve (tagFile directory name))).filterMap
    (entryTag? files scanned owner)

variable {files : FileSystem}

theorem definitions_by_scan (options : DiscoveryOptions) (root : Path) :
    definitions files options root =
      definitionsBy (tagsOfDirectory files) files options root := rfl

theorem scan_without_broken {directory : Path} {name : String}
    (broken : BrokenTag files directory name) :
    scanWithout files directory name = tagsOfDirectory files := by
  funext owner scanned
  unfold scanWithout tagsOfDirectory
  rw [List.filterMap_filter]
  apply List.filterMap_congr
  intro entry listed
  split
  · rfl
  · rename_i left
    simp only [Bool.not_eq_true, Bool.not_eq_false', Bool.and_eq_true, beq_iff_eq] at left
    obtain ⟨rfl, same⟩ := left
    exact (broken_entry (broken_same_file broken same) owner).symm

end Scans

/-- A broken descriptor never affects other tags. A library descriptor that cannot
be used, be it that of the project or of an installed package, does as little as
a file that is gone. An entry whose tag descriptor cannot be used is left out of
every scan of its directory, so for each tag the last of the other definitions
counts. -/
theorem broken_descriptors_ignored (files : FileSystem) (options : DiscoveryOptions)
    (root : Path) :
    (∀ (directory : Path) location content after,
      files.resolve (directory.child libraryFileName) = .ok (location, .file content) →
      BrokenLibrary files (directory.child libraryFileName) → FileRemoved location files after →
      load files options root = load after options root) ∧
    ∀ directory name, BrokenTag files directory name →
      load files options root =
        loadBy (scanWithout files directory name) files options root ∧
      ∀ earlier definition later,
        definitionsBy (scanWithout files directory name) files options root =
          earlier ++ definition :: later →
        (∀ other ∈ later, other.name ≠ definition.name) →
        Dictionary.get? (load files options root).tags definition.name = some definition := by
  constructor
  · intro directory location content after there broken removed
    exact load_without_broken_library removed broken there options root
  · intro directory name broken
    rw [scan_without_broken broken]
    refine ⟨rfl, ?_⟩
    intro earlier definition later listed others
    rw [← definitions_by_scan] at listed
    rw [load, Lookup.ofDefinitions, Dictionary.get_of_list_eq_some_iff, listed]
    refine ⟨_, _, by rw [List.map_append, List.map_cons], ?_⟩
    intro other member
    obtain ⟨following, present, same⟩ := List.mem_map.mp member
    rw [← same]
    exact others following present

/-- A project whose own descriptor has a truth value for a tag, and in which a tag
of an installed package is hidden behind a descriptor that is no JSON. -/
def brokenFiles : FileSystem :=
  { entries :=
      [(["package.json"], .file (Text.bytes "\x7b\"dependencies\":\x7b\"kit\":\"1\"\x7d\x7d")),
        (["node_modules"], .directory), (["node_modules", "kit"], .directory),
        (["node_modules", "kit", "marko.json"],
          .file (Text.bytes "\x7b\"<card>\":\x7b\"renderer\":\"r.js\"\x7d\x7d")),
        (["components"], .directory), (["components", "card"], .directory),
        (["components", "card", "index.marko"], .file []),
        (["components", "card", "marko-tag.json"], .file (Text.bytes "[")),
        (["marko.json"], .file (Text.bytes "\x7b\"<a>\":\x7b\x7d,\"<b>\":true\x7d"))]
    workingDirectory := ⟨true, []⟩
    configDirectory := none }

theorem broken_descriptors_ignored_project :
    load brokenFiles .default ⟨true, []⟩ =
      load (brokenFiles.delete ["marko.json"]) .default ⟨true, []⟩ ∧
    Dictionary.get? (load brokenFiles .default ⟨true, []⟩).tags "card" =
      some ⟨"card", ⟨none, some (Path.ofText "/node_modules/kit/r.js"),
        some (Path.ofText "/node_modules/kit/marko.json")⟩, [], []⟩ := by
  have there : brokenFiles.resolve (Path.child ⟨true, []⟩ libraryFileName) =
      .ok (["marko.json"], .file (Text.bytes "\x7b\"<a>\":\x7b\x7d,\"<b>\":true\x7d")) := by
    decide +kernel
  have read : brokenFiles.readText (Path.child ⟨true, []⟩ libraryFileName) =
      .ok "\x7b\"<a>\":\x7b\x7d,\"<b>\":true\x7d" := by decide +kernel
  have parsed : Json.parse? "\x7b\"<a>\":\x7b\x7d,\"<b>\":true\x7d" =
      some (.object [("<a>", .object []), ("<b>", .bool true)]) := by cbv
  have noObject : ¬ CanDefine (.bool true) := by
    intro defining
    obtain ⟨members, same, -⟩ := defining
    cases same
  have library : BrokenLibrary brokenFiles (Path.child ⟨true, []⟩ libraryFileName) :=
    .invalid_tag read parsed (List.mem_cons_of_mem _ List.mem_cons_self)
      (show Declares "<b>" "b" from Or.inr rfl) noObject
  have entry : brokenFiles.entryAt? ["marko.json"] =
      some (.file (Text.bytes "\x7b\"<a>\":\x7b\x7d,\"<b>\":true\x7d")) := by decide +kernel
  have removed : FileRemoved ["marko.json"] brokenFiles (brokenFiles.delete ["marko.json"]) :=
    FileSystem.file_removed_delete entry (by decide +kernel)
  have tag : BrokenTag brokenFiles (Path.child ⟨true, []⟩ "components") "card" :=
    ⟨by decide +kernel, Or.inr ⟨"[", .taglib _ .malformed, by decide +kernel, by cbv⟩⟩
  have ignored := broken_descriptors_ignored brokenFiles .default ⟨true, []⟩
  refine ⟨ignored.1 _ _ _ _ there library removed, ?_⟩
  apply (ignored.2 _ _ tag).2 [] ⟨"card", _, [], []⟩ []
  · decide +kernel
  · simp

end TemplateServer.Taglib
