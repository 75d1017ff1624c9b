import TemplateServer.Definition
import TemplateServer.Proofs.Taglib.Declarations
import TemplateServer.Proofs.Taglib.Precedence

/-!
Where the tags of a project come from. Every definition has its name, is
implemented or described, and tells the descriptor that it comes from, which is a
file that can be used. Attributes and examples of use come from that descriptor
alone. So the descriptor of a tag can always be shown.
-/

namespace TemplateServer.Taglib

/-- A file that is there and that is used as the descriptor of a library. -/
def IsLibraryFile (files : FileSystem) (path : Path) : Prop :=
  ∃ directory contents library, path = Path.child directory libraryFileName ∧
    files.isFile path = true ∧ files.readText path = .ok contents ∧
    Library.ofFile path contents = .ok library

def IsTagFile (files : FileSystem) (name : String) (path : Path) : Prop :=
  ∃ directory contents described, path = Path.child directory tagFileName ∧
    files.isFile path = true ∧ files.readText path = .ok contents ∧
    TagDefinition.ofFile name path contents = .ok described

structure Traceable (files : FileSystem) (definition : TagDefinition) : Prop where
  described : ∀ path, definition.implementation.taglib = some path →
    IsLibraryFile files path ∨ IsTagFile files definition.name path
  founded : definition.isResolvable = true ∨ definition.implementation.taglib.isSome = true
  declared : ∀ entry ∈ definition.attributes,
    entry.2 = definition.implementation.taglib ∧ entry.2.isSome = true
  furnished : definition.attributes ≠ [] ∨ definition.autocomplete ≠ [] →
    definition.implementation.taglib.isSome = true

section Sources

variable {files : FileSystem} {file : Path} {name : String} {members : List (String × Json)}
  {definition : TagDefinition}

theorem describes_library_file {directory : Path}
    (described : Describes files (directory.child libraryFileName) members) :
    IsLibraryFile files (directory.child libraryFileName) := by
  obtain ⟨contents, read, parsed⟩ := described.parsed
  have library := (library_of_members_iff _ members _).mpr ⟨described.usable, rfl⟩
  have accepted : Library.ofFile (directory.child libraryFileName) contents =
      .ok (libraryWith (directory.child libraryFileName) members) := by
    unfold Library.ofFile
    rw [parse_library_of_members _ parsed, library]
    rfl
  exact ⟨directory, contents, _, rfl, described.is_file, read, accepted⟩

/-- What a descriptor says of a tag is traced to the descriptor. -/
theorem declared_traceable (defined : DefinedBy file members name definition)
    (source : IsLibraryFile files file ∨ IsTagFile files definition.name file) :
    Traceable files definition := by
  have taglib : definition.implementation.taglib = some file := by
    rw [defined.implementation]
  constructor
  · intro path same
    rw [taglib] at same
    cases same
    exact source
  · rw [taglib]
    exact Or.inr rfl
  · intro entry member
    rw [taglib, defined.declared_here entry member]
    exact ⟨rfl, rfl⟩
  · intro furnished
    rw [taglib]
    rfl

/-- A tag without a descriptor of its own is traced to the library of its directory. -/
theorem undescribed_traceable {owner : Option Path}
    (owned : ∀ path, owner = some path → IsLibraryFile files path)
    (plain : definition.attributes = [] ∧ definition.autocomplete = [])
    (taglib : definition.implementation.taglib = owner)
    (resolvable : definition.isResolvable = true) : Traceable files definition := by
  constructor
  · intro path same
    rw [taglib] at same
    exact Or.inl (owned path same)
  · exact Or.inl resolvable
  · intro entry member
    rw [plain.1] at member
    cases member
  · intro furnished
    rw [plain.1, plain.2] at furnished
    exact absurd furnished (by simp)

/-- The files of its directory change nothing of where a described tag comes from. -/
theorem with_files_traceable {directory : Path}
    (taglib : definition.implementation.taglib.isSome = true)
    (traceable : Traceable files definition) :
    Traceable files (withFilesOf files directory definition) :=
  ⟨traceable.described, Or.inr taglib, traceable.declared, traceable.furnished⟩

/-- A tag descriptor that can be used defines a tag like a value of a library. -/
theorem read_tag_defined {directory : Path}
    (present : files.isFile (directory.child tagFileName) = true)
    (read : readTag? files name (directory.child tagFileName) = some definition) :
    IsTagFile files name (directory.child tagFileName) ∧
      ∃ members, DefinedBy (directory.child tagFileName) members name definition := by
  unfold readTag? at read
  split at read
  · cases read
  · rename_i contents found
    cases described : parseTag name (directory.child tagFileName) contents with
    | error fault =>
        rw [described] at read
        cases read
    | ok other =>
        rw [described] at read
        cases read
        have accepted : TagDefinition.ofFile name (directory.child tagFileName) contents =
            .ok definition := by
          unfold TagDefinition.ofFile
          rw [described]
          rfl
        obtain ⟨members, parsed, -⟩ := (tag_of_file_ok_iff _ _ _).mp ⟨definition, accepted⟩
        rw [parse_tag_of_members _ _ parsed] at described
        have value : tagOfJson name (directory.child tagFileName) (.object members) =
            .ok definition := described
        obtain ⟨_, same, defined⟩ := tag_of_json_ok value
        exact ⟨⟨directory, contents, definition, rfl, present, found, accepted⟩, _, defined⟩

/-- Every entry of a directory that is a tag can be traced. -/
theorem entry_traceable {directory : Path} {owner : Option Path}
    (owned : ∀ path, owner = some path → IsLibraryFile files path)
    (found : entryTag? files directory owner name = some definition) :
    Traceable files definition := by
  unfold entryTag? at found
  dsimp only at found
  split at found
  · cases found
  · split at found
    · unfold tagOfDirectory? at found
      dsimp only at found
      split at found
      · rename_i present
        obtain ⟨described, read, rfl⟩ := Option.map_eq_some_iff.mp found
        obtain ⟨source, members, defined⟩ := read_tag_defined present read
        apply with_files_traceable
        · rw [defined.implementation]
          rfl
        · apply declared_traceable defined
          rw [defined.named]
          exact Or.inr source
      · split at found
        · rename_i resolvable
          cases found
          exact undescribed_traceable owned ⟨rfl, rfl⟩ rfl resolvable
        · cases found
    · obtain ⟨tag, -, rfl⟩ := Option.map_eq_some_iff.mp found
      exact undescribed_traceable owned ⟨rfl, rfl⟩ rfl rfl

/-- Every tag of a library can be traced. -/
theorem library_traceable {directory : Path} {place : LibrarySite}
    (described : Describes files (directory.child libraryFileName) members)
    (defined : DefinedInLibrary files (directory.child libraryFileName) members place definition) :
    Traceable files definition := by
  have source := describes_library_file described
  cases defined with
  | entry listed found =>
      obtain ⟨names, -, -, found⟩ := found
      apply entry_traceable _ found
      intro path same
      cases same
      exact source
  | key member declares read =>
      obtain ⟨described, -, defined⟩ := tag_of_json_ok read
      exact declared_traceable defined (Or.inl source)

end Sources

/-- Whatever the site of a definition, the definition can be traced. -/
theorem defined_traceable {files : FileSystem} {options : DiscoveryOptions} {root : Path}
    {site : Site} {definition : TagDefinition}
    (defined : Defined files options root site definition) : Traceable files definition := by
  cases defined with
  | installed searched depends described inside => exact library_traceable described inside
  | own described inside => exact library_traceable described inside
  | configured given owns found =>
      obtain ⟨names, -, -, found⟩ := found
      apply entry_traceable _ found
      intro path same
      cases owns with
      | described described =>
          cases same
          exact describes_library_file described
      | undescribed => cases same

theorem loaded_defined {files : FileSystem} {options : DiscoveryOptions} {root : Path}
    {name : String} {definition : TagDefinition}
    (loaded : (name, definition) ∈ (load files options root).tags) :
    definition.name = name ∧ ∃ site, Defined files options root site definition := by
  have listed := List.mem_map.mp (Dictionary.mem_of_mem_of_list loaded)
  obtain ⟨other, member, same⟩ := listed
  cases same
  obtain ⟨sites, whole, -, members⟩ := lists_definitions files options root
  rw [← whole] at member
  obtain ⟨⟨site, _⟩, present, rfl⟩ := List.mem_map.mp member
  exact ⟨rfl, site, (members site _).mp present⟩

/-- Every tag of a project is loaded under its name and can be traced, and on the
same files the descriptor of a tag is shown behind its implementation. -/
theorem loaded_tags_traceable (files : FileSystem) (options : DiscoveryOptions) (root : Path)
    (name : String) (definition : TagDefinition)
    (loaded : (name, definition) ∈ (load files options root).tags) :
    definition.name = name ∧ Traceable files definition ∧
      ∀ path taglib url taglibUrl,
        definition.implementation.template.or definition.implementation.renderer = some path →
        definition.implementation.taglib = some taglib →
        Url.ofFilePath? path = some url → Url.ofFilePath? taglib = some taglibUrl →
        Definition.ofTag (load files options root).registry files name =
          .ok [⟨url, Target.startRange⟩, ⟨taglibUrl, Target.startRange⟩] := by
  obtain ⟨named, site, defined⟩ := loaded_defined loaded
  have traceable := defined_traceable defined
  refine ⟨named, traceable, ?_⟩
  intro path taglib url taglibUrl implemented described addressed taglibAddressed
  have sorted : Dictionary.Sorted (load files options root).tags := Dictionary.sorted_of_list _
  have known : (load files options root).registry.tag? name = some definition.implementation := by
    change (Dictionary.get? (load files options root).tags name).map _ = _
    rw [Dictionary.get_of_mem sorted loaded]
    rfl
  have present : files.isFile taglib = true := by
    rcases traceable.described taglib described with library | tag
    · obtain ⟨_, _, _, -, present, -⟩ := library
      exact present
    · obtain ⟨_, _, _, -, present, -⟩ := tag
      exact present
  unfold Definition.ofTag
  rw [known]
  simp only [Option.getD_some, implemented, described, Option.bind_some, if_pos present,
    Target.atStart?, Target.inFile?, addressed, taglibAddressed, Option.map_some,
    Option.toList_some, List.singleton_append]

def describedFiles : FileSystem :=
  { entries :=
      [(["components"], .directory), (["components", "card"], .directory),
        (["components", "card", "index.marko"], .file []),
        (["components", "card", "marko-tag.json"],
          .file (Text.bytes "\x7b\"@title\":\"string\"\x7d"))]
    workingDirectory := ⟨true, []⟩
    configDirectory := none }

def describedCard : TagDefinition :=
  { name := "card"
    implementation := ⟨some (Path.ofText "/components/card/index.marko"), none,
      some (Path.ofText "/components/card/marko-tag.json")⟩
    attributes := [("title", some (Path.ofText "/components/card/marko-tag.json"))]
    autocomplete := [] }

theorem loaded_tags_traceable_card :
    ("card", describedCard) ∈ (load describedFiles .default ⟨true, []⟩).tags ∧
    Traceable describedFiles describedCard ∧
    ∃ url taglibUrl, Url.ofFilePath? (Path.ofText "/components/card/index.marko") = some url ∧
      Url.ofFilePath? (Path.ofText "/components/card/marko-tag.json") = some taglibUrl ∧
      Definition.ofTag (load describedFiles .default ⟨true, []⟩).registry describedFiles "card" =
        .ok [⟨url, Target.startRange⟩, ⟨taglibUrl, Target.startRange⟩] := by
  have tags : (load describedFiles .default ⟨true, []⟩).tags = [("card", describedCard)] := by
    decide +kernel
  have loaded : ("card", describedCard) ∈ (load describedFiles .default ⟨true, []⟩).tags := by
    rw [tags]
    exact List.mem_singleton_self _
  obtain ⟨url, addressed⟩ :
      ∃ url, Url.ofFilePath? (Path.ofText "/components/card/index.marko") = some url :=
    Option.isSome_iff_exists.mp (by decide +kernel)
  obtain ⟨taglibUrl, taglibAddressed⟩ :
      ∃ url, Url.ofFilePath? (Path.ofText "/components/card/marko-tag.json") = some url :=
    Option.isSome_iff_exists.mp (by decide +kernel)
  obtain ⟨-, traceable, shown⟩ :=
    loaded_tags_traceable describedFiles .default ⟨true, []⟩ "card" describedCard loaded
  exact ⟨loaded, traceable, url, taglibUrl, addressed, taglibAddressed,
    shown _ _ url taglibUrl rfl rfl addressed taglibAddressed⟩

end TemplateServer.Taglib
