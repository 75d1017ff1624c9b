import TemplateServer.Definition
import TemplateServer.Proofs.FileSystem.Spelling
import TemplateServer.Proofs.Taglib.Sites

/-!
A project by two spellings of its root. The paths of its definitions differ in
their spelling, but what is seen through them is the same, and so are all
answers about its tags. The one thing that can tell the spellings apart is a path
that one of them makes too long. The paths that the discovery looks at are listed
here, so that this can be said of them and of no others.
-/

namespace TemplateServer

abbrev Sight := Path × Except IoError (List String × FileEntry)

namespace FileSystem

def look (files : FileSystem) (path : Path) : Sight := (path.plain, files.resolve path)

section Looking

variable {files : FileSystem} {path other : Path} (same : files.look path = files.look other)

include same

theorem look_plain : path.plain = other.plain := congrArg Prod.fst same

theorem look_is_file : files.isFile path = files.isFile other := by
  rw [isFile, isFile, show files.resolve path = files.resolve other from congrArg Prod.snd same]

theorem look_is_directory : files.isDirectory path = files.isDirectory other := by
  rw [isDirectory, isDirectory,
    show files.resolve path = files.resolve other from congrArg Prod.snd same]

theorem look_read_text : files.readText path = files.readText other := by
  rw [readText, readText, show files.resolve path = files.resolve other from congrArg Prod.snd same]

theorem look_list : files.list? path = files.list? other := by
  rw [list?, list?, show files.resolve path = files.resolve other from congrArg Prod.snd same]

end Looking

end FileSystem

namespace Taglib

structure TagSight where
  name : String
  template : Option Sight
  renderer : Option Sight
  taglib : Option Sight
  attributes : Dictionary (Option Sight)
  autocomplete : List Autocomplete

def TagDefinition.sight (files : FileSystem) (definition : TagDefinition) : TagSight :=
  { name := definition.name
    template := definition.implementation.template.map files.look
    renderer := definition.implementation.renderer.map files.look
    taglib := definition.implementation.taglib.map files.look
    attributes := Dictionary.mapValues (Option.map files.look) definition.attributes
    autocomplete := definition.autocomplete }

/-- A descriptor by two paths: what it holds is the same, and so is every file
that it mentions. -/
structure SameDescriptor (files : FileSystem) (file other : Path) : Prop where
  looks : files.look file = files.look other
  beside : ∀ relative, besideFile file relative = besideFile other relative

theorem SameDescriptor.symm {files : FileSystem} {file other : Path}
    (same : SameDescriptor files file other) : SameDescriptor files other file :=
  ⟨same.looks.symm, fun relative => (same.beside relative).symm⟩

/-- The files that a descriptor mentions do not depend on how its own directory is
spelled. -/
theorem beside_file_plain {directory other : Path} (same : directory.plain = other.plain)
    {name : String} (proper : ProperName name) (relative : String) :
    besideFile (directory.child name) relative = besideFile (other.child name) relative := by
  obtain ⟨parent, found, absolute, pieces⟩ := directory.parent_of_child proper
  obtain ⟨above, also, sameAbsolute, samePieces⟩ := other.parent_of_child proper
  rw [besideFile, besideFile, found, also, Option.getD_some, Option.getD_some, Path.child,
    Path.child]
  cases given : (Path.ofText relative).absolute with
  | true => rw [Path.join, Path.join, if_pos given, if_pos given]
  | false =>
      apply Path.cleaned_eq
      · rw [Path.join_absolute _ given, Path.join_absolute _ given, absolute, sameAbsolute,
          Path.absolute_of_plain same]
      · rw [Path.named_join _ given, Path.named_join _ given, pieces, samePieces,
          Path.named_of_plain same]

section Reading

variable {Fault Value Other : Type} (found : Except Fault Value)

theorem to_option_map (change : Value → Other) :
    found.toOption.map change = (found.map change).toOption := by
  cases found with
  | error fault => rfl
  | ok value => rfl

theorem to_option_some : (found.map some).toOption.join = found.toOption := by
  cases found with
  | error fault => rfl
  | ok value => rfl

end Reading

section Descriptors

variable {files : FileSystem} {file other : Path} (same : SameDescriptor files file other)

include same

theorem tag_definition_sight (name : String) (members : List (String × Json)) :
    (tagDefinition name file members).map (TagDefinition.sight files) =
      (tagDefinition name other members).map (TagDefinition.sight files) := by
  have attributes : Dictionary.mapValues (Option.map files.look) (Dictionary.ofList
        ((attributeNames members).map fun attr => (attr, some file))) =
      Dictionary.mapValues (Option.map files.look) (Dictionary.ofList
        ((attributeNames members).map fun attr => (attr, some other))) := by
    rw [← Dictionary.of_list_map_values, ← Dictionary.of_list_map_values]
    simp only [Dictionary.mapValues, List.map_map, Function.comp_def, Option.map_some, same.looks]
  have built : ∀ template renderer autocomplete,
      TagDefinition.sight files ⟨name, ⟨template, renderer, some file⟩, Dictionary.ofList
        ((attributeNames members).map fun attr => (attr, some file)), autocomplete⟩ =
      TagDefinition.sight files ⟨name, ⟨template, renderer, some other⟩, Dictionary.ofList
        ((attributeNames members).map fun attr => (attr, some other)), autocomplete⟩ := by
    intro template renderer autocomplete
    simp only [TagDefinition.sight, attributes, Option.map_some, same.looks]
  rw [tagDefinition, tagDefinition, funext same.beside]
  cases Dictionary.get? members "autocomplete" with
  | none => exact congrArg Except.ok (built _ _ _)
  | some found =>
      dsimp only
      cases Json.decodeList Autocomplete.decode found with
      | error cause => rfl
      | ok examples => exact congrArg Except.ok (built _ _ _)

theorem tag_of_json_sight (name : String) (value : Json) :
    (tagOfJson name file value).map (TagDefinition.sight files) =
      (tagOfJson name other value).map (TagDefinition.sight files) := by
  cases value with
  | object members => exact tag_definition_sight same name members
  | _ => rfl

theorem read_tag_sight (name : String) :
    (readTag? files name file).map (TagDefinition.sight files) =
      (readTag? files name other).map (TagDefinition.sight files) := by
  rw [readTag?, readTag?, FileSystem.look_read_text same.looks]
  cases files.readText other with
  | error cause => rfl
  | ok contents =>
      dsimp only
      rw [to_option_map, to_option_map, parseTag, parseTag]
      cases descriptorMembers contents with
      | error fault => rfl
      | ok members => exact congrArg Except.toOption (tag_definition_sight same name members)

theorem declaration_sight (member : String × Json) :
    (declaration? file member).map (TagDefinition.sight files) =
      (declaration? other member).map (TagDefinition.sight files) := by
  rw [declaration?, declaration?, readMember, readMember]
  cases tagOfKey? member.1 with
  | none => rfl
  | some name =>
      dsimp only
      rw [to_option_some, to_option_some, to_option_map, to_option_map,
        tag_of_json_sight same name member.2]

theorem usable_same {members : List (String × Json)} (usable : Usable file members) :
    Usable other members := by
  intro key value name member declares
  obtain ⟨definition, read⟩ := usable key value name member declares
  have sights := tag_of_json_sight same name value
  rw [read] at sights
  cases second : tagOfJson name other value with
  | error cause =>
      rw [second] at sights
      cases sights
  | ok counterpart => exact ⟨counterpart, rfl⟩

theorem describes_same {members : List (String × Json)}
    (described : Describes files file members) : Describes files other members := by
  obtain ⟨contents, read, parsed⟩ := described.parsed
  refine ⟨?_, ⟨contents, ?_, parsed⟩, usable_same same described.usable⟩
  · rw [← FileSystem.look_is_file same.looks]
    exact described.is_file
  · rw [← FileSystem.look_read_text same.looks]
    exact read

end Descriptors

def tagFiles : List String := [tagFileName, "index.marko", "template.marko", "renderer.js"]

/-- A directory of tags by two paths: each of them shows the same of the directory,
of its entries, and of the files in those that are directories. -/
structure SameDirectory (files : FileSystem) (directory other : Path) : Prop where
  looks : files.look directory = files.look other
  entries : ∀ name ∈ (files.list? directory).getD [],
    files.look (directory.child name) = files.look (other.child name)
  inside : ∀ name ∈ (files.list? directory).getD [],
    files.isDirectory (directory.child name) = true → ∀ file ∈ tagFiles,
      files.look ((directory.child name).child file) = files.look ((other.child name).child file)

theorem SameDirectory.refl (files : FileSystem) (directory : Path) :
    SameDirectory files directory directory :=
  ⟨rfl, fun _ _ => rfl, fun _ _ _ _ _ => rfl⟩

section Directories

variable {files : FileSystem} {directory other : Path} {owner counterpart : Option Path}

theorem first_file_look {names : List String}
    (same : ∀ name ∈ names,
      files.look (directory.child name) = files.look (other.child name)) :
    (firstFile? files directory names).map files.look =
      (firstFile? files other names).map files.look := by
  induction names with
  | nil => rfl
  | cons name names induction =>
      obtain ⟨looks, rest⟩ := List.forall_mem_cons.mp same
      have found := FileSystem.look_is_file looks
      rw [firstFile?, firstFile?, List.map_cons, List.map_cons, List.find?_cons, List.find?_cons,
        found]
      cases files.isFile (other.child name) with
      | true => exact congrArg some looks
      | false => exact induction rest

theorem with_files_of_sight (definition given : TagDefinition)
    (same : ∀ file ∈ tagFiles, files.look (directory.child file) = files.look (other.child file))
    (sights : definition.sight files = given.sight files) :
    (withFilesOf files directory definition).sight files =
      (withFilesOf files other given).sight files := by
  have templates : (firstFile? files directory ["index.marko", "template.marko"]).map files.look =
      (firstFile? files other ["index.marko", "template.marko"]).map files.look :=
    first_file_look fun name member => same name (List.mem_cons_of_mem _
      (List.mem_append_left ["renderer.js"] member))
  have renderers : (firstFile? files directory ["renderer.js"]).map files.look =
      (firstFile? files other ["renderer.js"]).map files.look :=
    first_file_look fun name member => same name
      (List.mem_append_right [tagFileName, "index.marko", "template.marko"] member)
  obtain ⟨name, template, render, taglib, attributes, autocomplete⟩ :=
    TagSight.mk.inj sights
  simp only [TagDefinition.sight, withFilesOf, Option.map_or]
  rw [name, template, render, taglib, attributes, autocomplete, templates, renderers]

theorem is_resolvable_sight {definition given : TagDefinition}
    (sights : definition.sight files = given.sight files) :
    definition.isResolvable = given.isResolvable := by
  obtain ⟨-, template, renderer, -⟩ := TagSight.mk.inj sights
  have templates := congrArg Option.isSome template
  have renderers := congrArg Option.isSome renderer
  rw [Option.isSome_map, Option.isSome_map] at templates renderers
  rw [TagDefinition.isResolvable, TagDefinition.isResolvable, templates, renderers]

theorem library_file_proper : ProperName libraryFileName := ⟨by decide, by decide, by decide⟩

theorem tag_file_proper : ProperName tagFileName := ⟨by decide, by decide, by decide⟩

theorem tag_of_directory_sight (name : String) (plain : directory.plain = other.plain)
    (same : ∀ file ∈ tagFiles, files.look (directory.child file) = files.look (other.child file))
    (owners : owner.map files.look = counterpart.map files.look) :
    (tagOfDirectory? files directory name owner).map (TagDefinition.sight files) =
      (tagOfDirectory? files other name counterpart).map (TagDefinition.sight files) := by
  have descriptor : SameDescriptor files (directory.child tagFileName) (other.child tagFileName) :=
    ⟨same tagFileName List.mem_cons_self, beside_file_plain plain tag_file_proper⟩
  rw [tagOfDirectory?, tagOfDirectory?, FileSystem.look_is_file descriptor.looks]
  split
  · have sights := read_tag_sight descriptor name
    cases first : readTag? files name (directory.child tagFileName) with
    | none =>
        rw [first, Option.map_none, eq_comm, Option.map_eq_none_iff] at sights
        rw [sights]
        rfl
    | some definition =>
        rw [first, Option.map_some, eq_comm, Option.map_eq_some_iff] at sights
        obtain ⟨given, second, sight⟩ := sights
        rw [second]
        exact congrArg some (with_files_of_sight definition given same sight.symm)
  · have sights := with_files_of_sight ⟨name, ⟨none, none, owner⟩, [], []⟩
      ⟨name, ⟨none, none, counterpart⟩, [], []⟩ same (by simp only [TagDefinition.sight, owners])
    dsimp only
    rw [is_resolvable_sight sights]
    split
    · exact congrArg some sights
    · rfl

theorem entry_tag_sight (same : SameDirectory files directory other)
    (owners : owner.map files.look = counterpart.map files.look) {name : String}
    (listed : name ∈ (files.list? directory).getD []) :
    (entryTag? files directory owner name).map (TagDefinition.sight files) =
      (entryTag? files other counterpart name).map (TagDefinition.sight files) := by
  have looks := same.entries name listed
  rw [entryTag?, entryTag?, ← FileSystem.look_is_directory looks]
  split
  · rfl
  · split
    · rename_i isDirectory
      exact tag_of_directory_sight name (FileSystem.look_plain looks)
        (same.inside name listed isDirectory) owners
    · cases withoutEnding? ".marko" name with
      | none => rfl
      | some tag =>
          simp only [Option.map_some, TagDefinition.sight, looks, owners]

theorem tags_of_directory_sight (same : SameDirectory files directory other)
    (owners : owner.map files.look = counterpart.map files.look) :
    (tagsOfDirectory files owner directory).map (TagDefinition.sight files) =
      (tagsOfDirectory files counterpart other).map (TagDefinition.sight files) := by
  rw [tagsOfDirectory, tagsOfDirectory, ← FileSystem.look_list same.looks, List.map_filterMap,
    List.map_filterMap]
  apply List.filterMap_congr
  intro name listed
  exact entry_tag_sight same owners listed

end Directories

section Libraries

variable {files : FileSystem} {file other : Path} (same : SameDescriptor files file other)

include same

theorem tags_of_library_sight (members : List (String × Json)) :
    (tagsOfLibrary files (libraryWith file members)).map (TagDefinition.sight files) =
      (tagsOfLibrary files (libraryWith other members)).map (TagDefinition.sight files) := by
  have directories : directoriesOf file members = directoriesOf other members := by
    rw [directoriesOf, directoriesOf, funext same.beside]
  have owners : (some file).map files.look = (some other).map files.look := congrArg some same.looks
  simp only [tagsOfLibrary, libraryWith, directories, List.map_append, List.map_flatMap,
    List.map_filterMap]
  congr 1
  · apply List.flatMap_congr
    intro directory _
    exact tags_of_directory_sight (.refl files directory) owners
  · apply List.filterMap_congr
    intro member _
    exact declaration_sight same member

/-- A descriptor describes a library by both paths or by none. -/
theorem library_cases :
    library? files file = none ∧ library? files other = none ∨
      ∃ members, library? files file = some (libraryWith file members) ∧
        library? files other = some (libraryWith other members) := by
  cases found : library? files file with
  | some library =>
      obtain ⟨members, described, rfl⟩ := (library_iff files file library).mp found
      exact .inr ⟨members, rfl,
        (library_iff files other _).mpr ⟨members, describes_same same described, rfl⟩⟩
  | none =>
      cases also : library? files other with
      | none => exact .inl ⟨rfl, rfl⟩
      | some library =>
          obtain ⟨members, described, -⟩ := (library_iff files other library).mp also
          have here := (library_iff files file _).mpr
            ⟨members, describes_same same.symm described, rfl⟩
          rw [found] at here
          cases here

theorem library_tags_sight :
    ((library? files file).toList.flatMap (tagsOfLibrary files)).map (TagDefinition.sight files) =
      ((library? files other).toList.flatMap (tagsOfLibrary files)).map
        (TagDefinition.sight files) := by
  rcases library_cases same with ⟨first, second⟩ | ⟨members, first, second⟩
  · rw [first, second]
  · rw [first, second, Option.toList_some, Option.toList_some, List.flatMap_singleton,
      List.flatMap_singleton]
    exact tags_of_library_sight same members

theorem library_path_look :
    ((library? files file).map (·.path)).map files.look =
      ((library? files other).map (·.path)).map files.look := by
  rcases library_cases same with ⟨first, second⟩ | ⟨members, first, second⟩
  · rw [first, second]
  · rw [first, second]
    exact congrArg some same.looks

end Libraries

/-- The ways down from the root of a project to all that decides which tags it has.
Where a library lists directories, their paths do not depend on how the root is
spelled, so these are not among them. -/
inductive LooksAt (files : FileSystem) (options : DiscoveryOptions) (root : Path) :
    List String → Prop
  | package : options.installedTaglibs = true → LooksAt files options root [packageFileName]
  | installed {dependency : String} : options.installedTaglibs = true →
      dependency ∈ dependencies files root →
      LooksAt files options root ["node_modules", dependency, libraryFileName]
  | library : LooksAt files options root [libraryFileName]
  | directory {directory : String} : directory ∈ options.tagsDirs →
      LooksAt files options root [directory]
  | entry {directory name : String} : directory ∈ options.tagsDirs →
      name ∈ (files.list? (root.child directory)).getD [] →
      LooksAt files options root [directory, name]
  | inside {directory name file : String} : directory ∈ options.tagsDirs →
      name ∈ (files.list? (root.child directory)).getD [] →
      files.isDirectory ((root.child directory).child name) = true → file ∈ tagFiles →
      LooksAt files options root [directory, name, file]

def descend (root : Path) (way : List String) : Path := way.foldl Path.child root

/-- Two spellings of a root that make the same paths too long, of those that are
looked at. -/
def CutAlike (files : FileSystem) (options : DiscoveryOptions) (root other : Path) : Prop :=
  ∀ way, LooksAt files options root way →
    ((descend root way).size ≤ FileSystem.greatestPath ↔
      (descend other way).size ≤ FileSystem.greatestPath)

section Roots

variable {files : FileSystem} {options : DiscoveryOptions} {root other : Path}
  (same : root.plain = other.plain)

include same

theorem plain_descend (way : List String) :
    (descend root way).plain = (descend other way).plain := by
  induction way generalizing root other with
  | nil => exact same
  | cons name way induction => exact induction (Path.plain_child same name)

variable (alike : CutAlike files options root other)

include alike

theorem look_descend {way : List String} (looks : LooksAt files options root way) :
    files.look (descend root way) = files.look (descend other way) := by
  have plain := plain_descend same way
  exact Prod.ext plain (files.resolve_plain plain (alike way looks))

theorem own_descriptor : SameDescriptor files (ownFile root) (ownFile other) :=
  ⟨look_descend same alike .library, beside_file_plain same library_file_proper⟩

theorem installed_descriptor (searched : options.installedTaglibs = true) {dependency : String}
    (needed : dependency ∈ dependencies files root) :
    SameDescriptor files (installedFile root dependency) (installedFile other dependency) := by
  have package : ((root.child "node_modules").child dependency).plain =
      ((other.child "node_modules").child dependency).plain :=
    plain_descend same ["node_modules", dependency]
  exact ⟨look_descend same alike (.installed searched needed),
    beside_file_plain package library_file_proper⟩

theorem configured_directory {directory : String} (given : directory ∈ options.tagsDirs) :
    SameDirectory files (root.child directory) (other.child directory) :=
  ⟨look_descend same alike (.directory given),
    fun _ listed => look_descend same alike (.entry given listed),
    fun _ listed isDirectory _ file =>
      look_descend same alike (.inside given listed isDirectory file)⟩

theorem same_dependencies (searched : options.installedTaglibs = true) :
    dependencies files root = dependencies files other := by
  have package : files.look (root.child packageFileName) =
      files.look (other.child packageFileName) := look_descend same alike (.package searched)
  rw [dependencies, dependencies, packageMembers?, packageMembers?,
    FileSystem.look_read_text package]

theorem installed_sight (searched : options.installedTaglibs = true) :
    ((installedLibraries files root).flatMap (tagsOfLibrary files)).map
        (TagDefinition.sight files) =
      ((installedLibraries files other).flatMap (tagsOfLibrary files)).map
        (TagDefinition.sight files) := by
  rw [installed_libraries_eq, installed_libraries_eq, ← same_dependencies same alike searched,
    List.flatMap_assoc, List.flatMap_assoc, List.map_flatMap, List.map_flatMap]
  apply List.flatMap_congr
  intro dependency needed
  exact library_tags_sight (installed_descriptor same alike searched needed)

theorem configured_sight :
    (options.tagsDirs.flatMap fun directory =>
        tagsOfDirectory files ((rootLibrary? files root).map (·.path))
          (root.child directory)).map (TagDefinition.sight files) =
      (options.tagsDirs.flatMap fun directory =>
        tagsOfDirectory files ((rootLibrary? files other).map (·.path))
          (other.child directory)).map (TagDefinition.sight files) := by
  rw [List.map_flatMap, List.map_flatMap]
  apply List.flatMap_congr
  intro directory given
  exact tags_of_directory_sight (configured_directory same alike given)
    (library_path_look (own_descriptor same alike))

theorem definitions_sight :
    (definitions files options root).map (TagDefinition.sight files) =
      (definitions files options other).map (TagDefinition.sight files) := by
  have own := library_tags_sight (own_descriptor same alike)
  rw [definitions_eq, definitions_eq, List.map_append, List.map_append, List.map_append,
    List.map_append, own, configured_sight same alike]
  congr 2
  split
  · rename_i searched
    exact installed_sight same alike searched
  · rfl

/-- The tags of a project show the same by both spellings of its root. -/
theorem load_sight :
    Dictionary.mapValues (TagDefinition.sight files) (load files options root).tags =
      Dictionary.mapValues (TagDefinition.sight files) (load files options other).tags := by
  have named : ∀ found : List TagDefinition,
      Dictionary.mapValues (TagDefinition.sight files)
          (found.map fun definition => (definition.name, definition)) =
        (found.map (TagDefinition.sight files)).map fun sight => (sight.name, sight) := by
    intro found
    rw [Dictionary.mapValues, List.map_map, List.map_map]
    rfl
  rw [load, load, Lookup.ofDefinitions, Lookup.ofDefinitions]
  dsimp only
  rw [← Dictionary.of_list_map_values, ← Dictionary.of_list_map_values, named, named,
    definitions_sight same alike]

end Roots

section Answers

variable {files : FileSystem} {project other : Lookup}
  (same : Dictionary.mapValues (TagDefinition.sight files) project.tags =
    Dictionary.mapValues (TagDefinition.sight files) other.tags)

include same

theorem get_sight (name : String) :
    (Dictionary.get? project.tags name).map (TagDefinition.sight files) =
      (Dictionary.get? other.tags name).map (TagDefinition.sight files) := by
  rw [← Dictionary.get_map_values, same, Dictionary.get_map_values]

theorem sorted_infos_same : project.sortedInfos = other.sortedInfos := by
  have offered : ∀ found : Lookup, found.sortedInfos =
      (((Dictionary.mapValues (TagDefinition.sight files) found.tags).map (·.2)).filter
        fun sight => sight.name != globalTag).map fun sight =>
          ⟨sight.name, sight.autocomplete⟩ := by
    intro found
    simp only [Lookup.sortedInfos, Lookup.sortedTags, Dictionary.mapValues, List.map_map,
      List.filter_map]
    rfl
  rw [offered, offered, same]

theorem attribute_look (tag name : String) :
    (project.attribute? tag name).map (Option.map files.look) =
      (other.attribute? tag name).map (Option.map files.look) := by
  have declared : ∀ (found : Lookup) (owner : String),
      ((Dictionary.get? found.tags owner).bind fun definition =>
          Dictionary.get? definition.attributes name).map (Option.map files.look) =
        ((Dictionary.get? found.tags owner).map (TagDefinition.sight files)).bind fun sight =>
          Dictionary.get? sight.attributes name := by
    intro found owner
    cases Dictionary.get? found.tags owner with
    | none => rfl
    | some definition =>
        exact (Dictionary.get_map_values (Option.map files.look) definition.attributes name).symm
  rw [Lookup.attribute?, Lookup.attribute?, List.map_findSome?, List.map_findSome?]
  simp only [Function.comp_def, declared, get_sight same]

end Answers

end Taglib

namespace Target

variable {files : FileSystem} {path other : Path} (same : files.look path = files.look other)

include same

theorem in_file_look (range : Text.Range) : inFile? path range = inFile? other range := by
  rw [inFile?, inFile?, Url.of_file_path_plain (FileSystem.look_plain same)]

theorem located_look (pattern : Text.Pattern) (number : Nat) :
    located? files path pattern number = located? files other pattern number := by
  rw [located?, located?, FileSystem.look_read_text same]
  cases files.readText other with
  | error cause => rfl
  | ok contents => exact in_file_look same _

end Target

namespace Definition

theorem bind_look {Found : Type} {files : FileSystem} {path? other? : Option Path}
    (same : path?.map files.look = other?.map files.look) (act : Path → Option Found)
    (alike : ∀ path other, files.look path = files.look other → act path = act other) :
    path?.bind act = other?.bind act := by
  cases path? with
  | none =>
      rw [Option.map_none, eq_comm, Option.map_eq_none_iff] at same
      rw [same]
  | some path =>
      rw [Option.map_some, eq_comm, Option.map_eq_some_iff] at same
      obtain ⟨other, rfl, looks⟩ := same
      exact alike path other looks.symm

variable {files : FileSystem} {project other : Taglib.Lookup}
  (same : Dictionary.mapValues (Taglib.TagDefinition.sight files) project.tags =
    Dictionary.mapValues (Taglib.TagDefinition.sight files) other.tags)

include same

theorem known_looks (tag : String) :
    ((project.tag? tag).getD .unknown).template.map files.look =
        ((other.tag? tag).getD .unknown).template.map files.look ∧
      ((project.tag? tag).getD .unknown).renderer.map files.look =
        ((other.tag? tag).getD .unknown).renderer.map files.look ∧
      ((project.tag? tag).getD .unknown).taglib.map files.look =
        ((other.tag? tag).getD .unknown).taglib.map files.look := by
  have sights := Taglib.get_sight same tag
  rw [Taglib.Lookup.tag?, Taglib.Lookup.tag?]
  cases first : Dictionary.get? project.tags tag with
  | none =>
      rw [first, Option.map_none, eq_comm, Option.map_eq_none_iff] at sights
      rw [sights]
      exact ⟨rfl, rfl, rfl⟩
  | some definition =>
      rw [first, Option.map_some, eq_comm, Option.map_eq_some_iff] at sights
      obtain ⟨given, second, sight⟩ := sights
      obtain ⟨-, template, renderer, taglib, -⟩ := Taglib.TagSight.mk.inj sight.symm
      rw [second]
      exact ⟨template, renderer, taglib⟩

theorem of_tag_same (tag : String) :
    ofTag project.registry files tag = ofTag other.registry files tag := by
  obtain ⟨template, renderer, taglib⟩ := known_looks same tag
  have descriptor := bind_look taglib
    (fun file => if files.isFile file then Target.atStart? file else none) (by
      intro path other looks
      rw [FileSystem.look_is_file looks, Target.atStart?, Target.atStart?,
        Target.in_file_look looks])
  have implemented :
      (((project.tag? tag).getD .unknown).template.or
        ((project.tag? tag).getD .unknown).renderer).map files.look =
      (((other.tag? tag).getD .unknown).template.or
        ((other.tag? tag).getD .unknown).renderer).map files.look := by
    rw [Option.map_or, Option.map_or, template, renderer]
  simp only [ofTag, Taglib.Lookup.registry]
  rw [descriptor]
  cases first : ((project.tag? tag).getD .unknown).template.or
      ((project.tag? tag).getD .unknown).renderer with
  | none =>
      rw [first, Option.map_none, eq_comm, Option.map_eq_none_iff] at implemented
      rw [implemented]
  | some path =>
      rw [first, Option.map_some, eq_comm, Option.map_eq_some_iff] at implemented
      obtain ⟨counterpart, second, looks⟩ := implemented
      rw [second]
      exact congrArg (fun target : Option Target => Except.ok (target.toList ++ _))
        (Target.in_file_look looks.symm _)

theorem of_attribute_same (tag name : String) :
    ofAttribute? project.registry files tag name = ofAttribute? other.registry files tag name := by
  have declared := congrArg Option.join (Taglib.attribute_look same tag name)
  rw [Option.join_map_eq_map_join, Option.join_map_eq_map_join] at declared
  exact bind_look declared _ fun path other looks => Target.located_look looks _ _

theorem at_offset_same (document : Path) (text : String) (offset : Nat) (settings : Settings) :
    atOffset project.registry files document text offset settings =
      atOffset other.registry files document text offset settings := by
  rw [atOffset, atOffset]
  cases Markup.scopeAt text offset with
  | none => rfl
  | some scope =>
      dsimp only
      rw [ofScope, ofScope]
      cases scope.kind with
      | tag => exact of_tag_same same scope.tagName
      | attributeName name =>
          exact congrArg (fun found : Option Target => Except.ok found.toList)
            (of_attribute_same same scope.tagName name)
      | attributeValue handler => rfl
      | noScope => rfl

end Definition

end TemplateServer
