import Mathlib.Data.List.Sort
import TemplateServer.Proofs.FileSystem.Change
import TemplateServer.Proofs.Taglib.Spelling

/-!
What the discovery of tags asks of the files. Directories are scanned for entries
with the ending of a template and for directories with files of a few names;
descriptors of libraries and packages are read under their own names. Where two
file systems give the same answers, the definitions are the same, and a scan
gives the same answers when a file of no such name changes.
-/

namespace TemplateServer.Taglib

open FileSystem (DiffersAt)

theorem read_tag_eq (files : FileSystem) (name : String) (path : Path) :
    readTag? files name path = (files.readText path).toOption.bind fun contents =>
      (parseTag name path contents).toOption := by
  rw [readTag?]
  cases files.readText path with
  | error cause => rfl
  | ok contents => rfl

theorem read_library_eq (files : FileSystem) (path : Path) :
    readLibrary? files path = (files.readText path).toOption.bind fun contents =>
      (parseLibrary path contents).toOption := by
  rw [readLibrary?]
  cases files.readText path with
  | error cause => rfl
  | ok contents => rfl

theorem package_members_eq (files : FileSystem) (directory : Path) :
    packageMembers? files directory =
      (files.readText (directory.child packageFileName)).toOption.bind fun contents =>
        match Json.parse? contents with
        | some (.object members) => some members
        | _ => none := by
  rw [packageMembers?]
  cases files.readText (directory.child packageFileName) with
  | error cause => rfl
  | ok contents => rfl

theorem filter_map_same_members {Value : Type} {read : String → Option Value}
    {names others : List String} (sorted : names.Pairwise (· < ·))
    (otherSorted : others.Pairwise (· < ·))
    (same : ∀ name, (read name).isSome = true → (name ∈ names ↔ name ∈ others)) :
    names.filterMap read = others.filterMap read := by
  have kept : ∀ items : List String,
      items.filterMap read = (items.filter fun name => (read name).isSome).filterMap read := by
    intro items
    rw [List.filterMap_filter]
    apply List.filterMap_congr
    intro name member
    cases read name with
    | none => rfl
    | some value => rfl
  rw [kept names, kept others]
  congr 1
  apply List.Pairwise.eq_of_mem_iff (sorted.filter _) (otherSorted.filter _)
  intro name
  rw [List.mem_filter, List.mem_filter]
  constructor
  · intro found
    exact ⟨(same name found.2).mp found.1, found.2⟩
  · intro found
    exact ⟨(same name found.2).mpr found.1, found.2⟩

theorem tag_files_proper {name : String} (tested : name ∈ tagFiles) : ProperName name := by
  have all : ∀ name ∈ tagFiles,
      Path.isIdle (.name name) = false ∧ name ≠ ".." ∧ '/' ∉ name.toList := by decide
  obtain ⟨named, down, slash⟩ := all name tested
  exact ⟨named, down, slash⟩

/-- A file that a scan passes over by its name. -/
structure Unscanned (name : String) : Prop where
  untested : name ∉ tagFiles
  no_template : name.toList.head? = some '.' ∨ withoutEnding? ".marko" name = none

section Scanning

variable {location : List String} {before after : FileSystem} {name : String}
  (differs : DiffersAt location before after) (ends : location.getLast? = some name)
  (unscanned : Unscanned name)

include differs ends unscanned

theorem tag_file_unchanged {tested : String} (member : tested ∈ tagFiles) (path : Path) :
    before.isFile (path.child tested) = after.isFile (path.child tested) ∧
      (before.readText (path.child tested)).toOption =
        (after.readText (path.child tested)).toOption := by
  have proper := tag_files_proper member
  have other : location.getLast? ≠ some tested := by
    intro same
    rw [ends] at same
    cases same
    exact unscanned.untested member
  exact ⟨differs.is_file_child proper other path, differs.read_text_child proper other path⟩

theorem first_file_unchanged (directory : Path) {names : List String}
    (tested : ∀ name ∈ names, name ∈ tagFiles) :
    firstFile? before directory names = firstFile? after directory names := by
  induction names with
  | nil => rfl
  | cons first names induction =>
      obtain ⟨firstTested, restTested⟩ := List.forall_mem_cons.mp tested
      have rest := induction restTested
      rw [firstFile?, firstFile?] at rest ⊢
      rw [List.map_cons, List.find?_cons, List.find?_cons,
        (tag_file_unchanged differs ends unscanned firstTested directory).1, rest]

theorem with_files_unchanged (directory : Path) (definition : TagDefinition) :
    withFilesOf before directory definition = withFilesOf after directory definition := by
  rw [withFilesOf, withFilesOf, first_file_unchanged differs ends unscanned directory (by decide),
    first_file_unchanged differs ends unscanned directory (by decide)]

theorem tag_of_directory_unchanged (directory : Path) (tag : String) (owner : Option Path) :
    tagOfDirectory? before directory tag owner = tagOfDirectory? after directory tag owner := by
  obtain ⟨present, read⟩ := tag_file_unchanged differs ends unscanned
    (show tagFileName ∈ tagFiles by decide) directory
  have files := funext (with_files_unchanged differs ends unscanned directory)
  simp only [tagOfDirectory?, present, read_tag_eq, read, files]

theorem entry_tag_unchanged (directory : Path) (owner : Option Path) (entry : String) :
    entryTag? before directory owner entry = entryTag? after directory owner entry := by
  simp only [entryTag?, differs.is_directory, tag_of_directory_unchanged differs ends unscanned]

omit ends in
/-- The changed file is no tag of the directory that it is in. -/
theorem entry_tag_passed_over {directory : Path} {parent : List String} (proper : ProperName name)
    (located : before.locate directory = .ok parent) (inside : parent ++ [name] = location)
    (owner : Option Path) : entryTag? before directory owner name = none := by
  have noDirectory : ¬ before.isDirectory (directory.child name) = true := by
    intro found
    obtain ⟨place, resolved⟩ := (before.is_directory_iff _).mp found
    obtain ⟨-, -, childLocated, entry⟩ := (before.resolve_ok_iff _ place .directory).mp resolved
    obtain ⟨above, aboveLocated, rfl⟩ := before.locate_child proper childLocated
    rw [located] at aboveLocated
    cases aboveLocated
    rw [inside] at entry
    exact differs.no_directory entry
  rw [entryTag?, if_neg noDirectory]
  rcases unscanned.no_template with hidden | other
  · rw [if_pos hidden]
  · rw [other]
    split
    · rfl
    · rfl

theorem tags_of_directory_unchanged (proper : ProperName name) (owner : Option Path)
    (directory : Path) :
    tagsOfDirectory before owner directory = tagsOfDirectory after owner directory := by
  have entries := funext (entry_tag_unchanged differs ends unscanned directory owner)
  cases listed : before.list? directory with
  | none =>
      cases alsoListed : after.list? directory with
      | none =>
          rw [tagsOfDirectory, tagsOfDirectory, listed, alsoListed]
          rfl
      | some others =>
          obtain ⟨names, found⟩ := differs.symm.list_is_some alsoListed
          rw [listed] at found
          cases found
  | some names =>
      obtain ⟨others, alsoListed⟩ := differs.list_is_some listed
      rw [tagsOfDirectory, tagsOfDirectory, listed, alsoListed, ← entries]
      apply filter_map_same_members (before.list_sorted listed) (after.list_sorted alsoListed)
      intro entry found
      apply differs.mem_list listed alsoListed
      -- the changed file would be an entry that is no tag
      intro parent located inside
      have same : entry = name := by
        rw [← inside, List.getLast?_concat] at ends
        exact Option.some.inj ends
      subst same
      rw [entry_tag_passed_over differs unscanned proper located inside] at found
      cases found

end Scanning

section Answers

variable {before after : FileSystem}
  (scans : ∀ owner directory,
    tagsOfDirectory before owner directory = tagsOfDirectory after owner directory)
  (libraries : ∀ directory : Path, library? before (directory.child libraryFileName) =
    library? after (directory.child libraryFileName))
  (packages : ∀ directory, packageMembers? before directory = packageMembers? after directory)

include scans libraries packages

/-- Definitions depend on scans, on libraries and on packages, and on nothing else. -/
theorem definitions_of_answers (options : DiscoveryOptions) (root : Path) :
    definitions before options root = definitions after options root := by
  have directories : tagsOfDirectory before = tagsOfDirectory after := by
    funext owner directory
    exact scans owner directory
  have tags : tagsOfLibrary before = tagsOfLibrary after := by
    funext library
    rw [tagsOfLibrary, tagsOfLibrary, directories]
  have own : library? before (ownFile root) = library? after (ownFile root) := libraries root
  have rootLibrary : rootLibrary? before root = rootLibrary? after root := own
  have depended : dependencies before root = dependencies after root := by
    rw [dependencies, dependencies, packages]
  have installed : installedLibraries before root = installedLibraries after root := by
    rw [installed_libraries_eq, installed_libraries_eq, depended]
    apply List.flatMap_congr
    intro dependency member
    exact congrArg Option.toList (libraries ((root.child "node_modules").child dependency))
  rw [definitions_eq, definitions_eq, installed, tags, rootLibrary, directories, own]

theorem load_of_answers (options : DiscoveryOptions) (root : Path) :
    load before options root = load after options root := by
  have version : markoVersion? before root = markoVersion? after root := by
    rw [markoVersion?, markoVersion?, packages]
  rw [load, load, definitions_of_answers scans libraries packages, version]

end Answers

end TemplateServer.Taglib
