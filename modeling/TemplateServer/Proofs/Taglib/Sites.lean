import Mathlib.Data.List.Basic
import TemplateServer.Proofs.FileSystem.Location
import TemplateServer.Proofs.Json.Members
import TemplateServer.Proofs.Text.ByteOrder
import TemplateServer.Taglib.Discovery

/-!
Where the tags of a project can be defined. Every definition has a site: an
entry of a directory or a key of a descriptor, of an installed package, of the
settings or of the project itself. Sites have an order that says nothing of how
they are searched. What the discovery reads is brought into the same terms: a
library is found where a descriptor describes one, and a dependency where the
package file names one.
-/

namespace TemplateServer.Taglib

open Text (bytes)

/-- A place in a library: an entry of one of the directories that its descriptor
lists, or a key of the descriptor. -/
inductive LibrarySite where
  | entry (directory : Nat) (name : String)
  | key (key : String)

/-- Directories come in the order of the list, entries and keys in the order of
their bytes, and all entries in front of all keys. -/
inductive LibrarySite.Before : LibrarySite → LibrarySite → Prop
  | directories {first second : Nat} (name other : String) : first < second →
      Before (.entry first name) (.entry second other)
  | entries {name other : String} (directory : Nat) : bytes name < bytes other →
      Before (.entry directory name) (.entry directory other)
  | declared (directory : Nat) (name key : String) : Before (.entry directory name) (.key key)
  | keys {first second : String} : bytes first < bytes second → Before (.key first) (.key second)

inductive Site where
  | installed (dependency : String) (place : LibrarySite)
  | configured (directory : Nat) (name : String)
  | own (place : LibrarySite)

inductive Site.Before : Site → Site → Prop
  | dependencies {first second : String} (place other : LibrarySite) : bytes first < bytes second →
      Before (.installed first place) (.installed second other)
  | installed {place other : LibrarySite} (dependency : String) : place.Before other →
      Before (.installed dependency place) (.installed dependency other)
  | configured_over_installed (dependency : String) (place : LibrarySite) (directory : Nat)
      (name : String) : Before (.installed dependency place) (.configured directory name)
  | own_over_installed (dependency : String) (place other : LibrarySite) :
      Before (.installed dependency place) (.own other)
  | directories {first second : Nat} (name other : String) : first < second →
      Before (.configured first name) (.configured second other)
  | entries {name other : String} (directory : Nat) : bytes name < bytes other →
      Before (.configured directory name) (.configured directory other)
  | own_over_configured (directory : Nat) (name : String) (place : LibrarySite) :
      Before (.configured directory name) (.own place)
  | own {place other : LibrarySite} : place.Before other → Before (.own place) (.own other)

theorem LibrarySite.Before.asymm {place other : LibrarySite} (before : place.Before other) :
    ¬ other.Before place := by
  intro after
  cases before with
  | directories name other less =>
      cases after with
      | directories _ _ greater => exact Nat.lt_asymm less greater
      | entries => exact Nat.lt_irrefl _ less
  | entries directory less =>
      cases after with
      | directories _ _ greater => exact Nat.lt_irrefl _ greater
      | entries _ greater => exact List.lt_asymm less greater
  | declared => cases after
  | keys less =>
      cases after with
      | keys greater => exact List.lt_asymm less greater

theorem Site.Before.asymm {site other : Site} (before : site.Before other) :
    ¬ other.Before site := by
  intro after
  cases before with
  | dependencies place other less =>
      cases after with
      | dependencies _ _ greater => exact List.lt_asymm less greater
      | installed => exact List.lt_irrefl _ less
  | installed dependency inside =>
      cases after with
      | dependencies _ _ greater => exact List.lt_irrefl _ greater
      | installed _ outside => exact inside.asymm outside
  | directories name other less =>
      cases after with
      | directories _ _ greater => exact Nat.lt_asymm less greater
      | entries => exact Nat.lt_irrefl _ less
  | entries directory less =>
      cases after with
      | directories _ _ greater => exact Nat.lt_irrefl _ greater
      | entries _ greater => exact List.lt_asymm less greater
  | own inside =>
      cases after with
      | own outside => exact inside.asymm outside
  | configured_over_installed => cases after
  | own_over_installed => cases after
  | own_over_configured => cases after

section Sites

variable (files : FileSystem)

def DefinedByEntry (owner : Option Path) (directory : Path) (name : String)
    (definition : TagDefinition) : Prop :=
  ∃ names, files.list? directory = some names ∧ name ∈ names ∧
    entryTag? files directory owner name = some definition

def Usable (file : Path) (members : List (String × Json)) : Prop :=
  ∀ key value name, (key, value) ∈ members → tagOfKey? key = some name →
    ∃ definition, tagOfJson name file value = .ok definition

/-- The members of the object that a descriptor file holds, if it can be used. -/
structure Describes (file : Path) (members : List (String × Json)) : Prop where
  is_file : files.isFile file = true
  parsed : ∃ contents, files.readText file = .ok contents ∧
    Json.parse? contents = some (.object members)
  usable : Usable file members

def directoriesOf (file : Path) (members : List (String × Json)) : List Path :=
  (((Dictionary.get? members "tags-dir").map textOrList).getD []).map (besideFile file)

inductive DefinedInLibrary (file : Path) (members : List (String × Json)) :
    LibrarySite → TagDefinition → Prop
  | entry {index : Nat} {directory : Path} {name : String} {definition : TagDefinition} :
      (directoriesOf file members)[index]? = some directory →
      DefinedByEntry files (some file) directory name definition →
      DefinedInLibrary file members (.entry index name) definition
  | key {key name : String} {value : Json} {definition : TagDefinition} :
      (key, value) ∈ members → tagOfKey? key = some name →
      tagOfJson name file value = .ok definition →
      DefinedInLibrary file members (.key key) definition

def DependsOn (root : Path) (dependency : String) : Prop :=
  ∃ contents members group dependencies,
    files.readText (root.child packageFileName) = .ok contents ∧
      Json.parse? contents = some (.object members) ∧
      group ∈ ["dependencies", "devDependencies", "peerDependencies"] ∧
      Dictionary.get? members group = some (.object dependencies) ∧
      dependency ∈ Dictionary.keys dependencies

def installedFile (root : Path) (dependency : String) : Path :=
  ((root.child "node_modules").child dependency).child libraryFileName

def ownFile (root : Path) : Path := root.child libraryFileName

/-- The descriptor to which the tags of the configured directories belong. -/
inductive Owns (root : Path) : Option Path → Prop
  | described {members : List (String × Json)} : Describes files (ownFile root) members →
      Owns root (some (ownFile root))
  | undescribed : (∀ members, ¬ Describes files (ownFile root) members) → Owns root none

/-- What is defined at the sites of a project. -/
inductive Defined (options : DiscoveryOptions) (root : Path) : Site → TagDefinition → Prop
  | installed {dependency : String} {members : List (String × Json)} {place : LibrarySite}
      {definition : TagDefinition} : options.installedTaglibs = true →
      DependsOn files root dependency → Describes files (installedFile root dependency) members →
      DefinedInLibrary files (installedFile root dependency) members place definition →
      Defined options root (.installed dependency place) definition
  | configured {index : Nat} {directory name : String} {owner : Option Path}
      {definition : TagDefinition} : options.tagsDirs[index]? = some directory →
      Owns files root owner → DefinedByEntry files owner (root.child directory) name definition →
      Defined options root (.configured index name) definition
  | own {members : List (String × Json)} {place : LibrarySite} {definition : TagDefinition} :
      Describes files (ownFile root) members →
      DefinedInLibrary files (ownFile root) members place definition →
      Defined options root (.own place) definition

end Sites

section Discovery

variable (files : FileSystem)

section Reading

variable {Item Value Fault : Type} {read : Item → Except Fault (Option Value)} {items : List Item}

theorem filter_map_readable (readable : ∀ item ∈ items, ∃ value, read item = .ok value) :
    items.filterMapM read = .ok (items.filterMap fun item => (read item).toOption.join) := by
  induction items with
  | nil => rfl
  | cons item items induction =>
      obtain ⟨⟨value, first⟩, rest⟩ := List.forall_mem_cons.mp readable
      rw [List.filterMapM_cons, List.filterMap_cons, first, induction rest]
      cases value with
      | none => rfl
      | some value => rfl

theorem readable_of_filter_map {found : List Value} (done : items.filterMapM read = .ok found) :
    ∀ item ∈ items, ∃ value, read item = .ok value := by
  induction items generalizing found with
  | nil => exact List.forall_mem_nil _
  | cons item items induction =>
      rw [List.filterMapM_cons] at done
      cases first : read item with
      | error fault =>
          rw [first] at done
          cases done
      | ok value =>
          rw [first] at done
          rw [List.forall_mem_cons]
          refine ⟨⟨value, first⟩, ?_⟩
          cases rest : items.filterMapM read with
          | ok others => exact induction rest
          | error fault =>
              rw [rest] at done
              cases value with
              | none => cases done
              | some value => cases done

end Reading

def readMember (file : Path) (member : String × Json) :
    Except DescriptorFault (Option TagDefinition) :=
  match tagOfKey? member.1 with
  | none => .ok none
  | some name => (tagOfJson name file member.2).map some

def declaration? (file : Path) (member : String × Json) : Option TagDefinition :=
  (readMember file member).toOption.join

theorem declaration_iff (file : Path) (member : String × Json) (definition : TagDefinition) :
    declaration? file member = some definition ↔
      ∃ name, tagOfKey? member.1 = some name ∧
        tagOfJson name file member.2 = .ok definition := by
  rw [declaration?, readMember]
  cases tagOfKey? member.1 with
  | none => simp [Except.toOption]
  | some name =>
      simp only [Option.some.injEq, exists_eq_left']
      cases tagOfJson name file member.2 with
      | error fault => simp [Except.map, Except.toOption]
      | ok found => simp [Except.map, Except.toOption]

theorem usable_iff (file : Path) (members : List (String × Json)) :
    Usable file members ↔ ∀ member ∈ members, ∃ value, readMember file member = .ok value := by
  constructor
  · rintro usable ⟨key, value⟩ member
    rw [readMember]
    split
    · exact ⟨none, rfl⟩
    · rename_i name declares
      obtain ⟨definition, read⟩ := usable key value name member declares
      exact ⟨some definition, by rw [read]; rfl⟩
  · intro readable key value name member declares
    obtain ⟨found, read⟩ := readable (key, value) member
    simp only [readMember, declares] at read
    cases declared : tagOfJson name file value with
    | error fault =>
        rw [declared] at read
        cases read
    | ok definition => exact ⟨definition, rfl⟩

def libraryWith (file : Path) (members : List (String × Json)) : Library :=
  ⟨file, members.filterMap (declaration? file), directoriesOf file members⟩

theorem library_of_members_eq (file : Path) (members : List (String × Json)) :
    libraryOfMembers file members = (members.filterMapM (readMember file)).map fun tags =>
      ⟨file, tags, directoriesOf file members⟩ := by
  rw [libraryOfMembers, directoriesOf]
  change (members.filterMapM (readMember file) >>= _) = _
  cases members.filterMapM (readMember file) with
  | error fault => rfl
  | ok tags =>
      cases Dictionary.get? members "tags-dir" with
      | none => rfl
      | some value => rfl

theorem library_of_members_iff (file : Path) (members : List (String × Json)) (library : Library) :
    libraryOfMembers file members = .ok library ↔
      Usable file members ∧ library = libraryWith file members := by
  rw [library_of_members_eq, usable_iff]
  constructor
  · intro read
    cases tags : members.filterMapM (readMember file) with
    | error fault =>
        rw [tags] at read
        cases read
    | ok found =>
        have readable := readable_of_filter_map tags
        rw [filter_map_readable readable] at read
        cases read
        exact ⟨readable, rfl⟩
  · rintro ⟨readable, rfl⟩
    rw [filter_map_readable readable]
    rfl

theorem parse_library_iff (file : Path) (contents : String) (library : Library) :
    (parseLibrary file contents).toOption = some library ↔
      ∃ members, Json.parse? contents = some (.object members) ∧ Usable file members ∧
        library = libraryWith file members := by
  have accepted : ∀ found : Except DescriptorFault Library,
      found.toOption = some library ↔ found = .ok library := by
    intro found
    cases found with
    | error fault => simp [Except.toOption]
    | ok other => simp [Except.toOption]
  rw [accepted, parseLibrary, descriptorMembers]
  split
  · rename_i malformed
    simp [bind, Except.bind, malformed]
  · rename_i members parsed
    simp only [bind, Except.bind, parsed, Option.some.injEq, Json.object.injEq, exists_eq_left']
    exact library_of_members_iff file members library
  · rename_i value other parsed
    simp only [bind, Except.bind, parsed, Option.some.injEq, reduceCtorEq, false_iff]
    rintro ⟨members, same, -⟩
    exact other members same

def library? (file : Path) : Option Library :=
  if files.isFile file then readLibrary? files file else none

theorem library_iff (file : Path) (library : Library) :
    library? files file = some library ↔
      ∃ members, Describes files file members ∧ library = libraryWith file members := by
  rw [library?, readLibrary?]
  constructor
  · intro found
    split at found
    · rename_i present
      split at found
      · cases found
      · rename_i contents read
        obtain ⟨members, parsed, usable, same⟩ := (parse_library_iff file contents library).mp found
        exact ⟨members, ⟨present, ⟨contents, read, parsed⟩, usable⟩, same⟩
    · cases found
  · rintro ⟨members, described, same⟩
    obtain ⟨contents, read, parsed⟩ := described.parsed
    rw [if_pos described.is_file, read]
    exact (parse_library_iff file contents library).mpr ⟨members, parsed, described.usable, same⟩

theorem describes_unique {file : Path} {members others : List (String × Json)}
    (first : Describes files file members) (second : Describes files file others) :
    members = others := by
  obtain ⟨contents, read, parsed⟩ := first.parsed
  obtain ⟨text, same, again⟩ := second.parsed
  rw [read] at same
  cases same
  rw [parsed] at again
  cases again
  rfl

theorem describes_sorted {file : Path} {members : List (String × Json)}
    (described : Describes files file members) :
    members.Pairwise fun first second => first.1 < second.1 := by
  obtain ⟨contents, -, parsed⟩ := described.parsed
  exact List.pairwise_map.mp (Json.parse_members_sorted parsed)

def dependencies (root : Path) : List String :=
  ((packageMembers? files root).map dependencyNames).getD []

theorem package_members_iff (directory : Path) (members : List (String × Json)) :
    packageMembers? files directory = some members ↔
      ∃ contents, files.readText (directory.child packageFileName) = .ok contents ∧
        Json.parse? contents = some (.object members) := by
  rw [packageMembers?]
  cases files.readText (directory.child packageFileName) with
  | error cause => simp
  | ok contents =>
      simp only [Except.ok.injEq, exists_eq_left']
      split
      · rename_i others parsed
        rw [parsed]
        simp
      · rename_i other
        simp only [reduceCtorEq, false_iff]
        exact other members

theorem mem_dependencies (root : Path) (dependency : String) :
    dependency ∈ dependencies files root ↔ DependsOn files root dependency := by
  constructor
  · intro member
    rw [dependencies] at member
    cases package : packageMembers? files root with
    | none =>
        rw [package] at member
        cases member
    | some members =>
        obtain ⟨contents, read, parsed⟩ := (package_members_iff files root members).mp package
        rw [package, Option.map_some, Option.getD_some, dependencyNames,
          Dictionary.mem_sorted_names, List.mem_flatMap] at member
        obtain ⟨group, grouped, named⟩ := member
        split at named
        · rename_i others found
          exact ⟨contents, members, group, others, read, parsed, grouped, found, named⟩
        · cases named
  · rintro ⟨contents, members, group, others, read, parsed, grouped, found, named⟩
    have package := (package_members_iff files root members).mpr ⟨contents, read, parsed⟩
    rw [dependencies, package, Option.map_some, Option.getD_some, dependencyNames,
      Dictionary.mem_sorted_names, List.mem_flatMap]
    exact ⟨group, grouped, by rw [found]; exact named⟩

theorem dependencies_sorted (root : Path) : (dependencies files root).Pairwise (· < ·) := by
  rw [dependencies]
  cases packageMembers? files root with
  | none => exact List.Pairwise.nil
  | some members => exact Dictionary.sorted_names_sorted _

theorem owns_iff (root : Path) (owner : Option Path) :
    Owns files root owner ↔ owner = (rootLibrary? files root).map (·.path) := by
  have searched : rootLibrary? files root = library? files (ownFile root) := rfl
  rw [searched]
  cases found : library? files (ownFile root) with
  | none =>
      have undescribed : ∀ members, ¬ Describes files (ownFile root) members := by
        intro members described
        rw [(library_iff files _ _).mpr ⟨members, described, rfl⟩] at found
        cases found
      constructor
      · rintro (described | -)
        · exact absurd described (undescribed _)
        · rfl
      · rintro rfl
        exact .undescribed undescribed
  | some library =>
      obtain ⟨members, described, rfl⟩ := (library_iff files _ library).mp found
      constructor
      · rintro (- | undescribed)
        · rfl
        · exact absurd described (undescribed members)
      · rintro rfl
        exact .described described

theorem installed_libraries_eq (root : Path) :
    installedLibraries files root = (dependencies files root).flatMap fun dependency =>
      (library? files (installedFile root dependency)).toList := by
  rw [← List.filterMap_eq_flatMap_toList, installedLibraries, List.filterMap_filter,
    List.filterMap_map]
  rfl

/-- The search for definitions, with the descriptor of the project as a library
like any other. -/
theorem definitions_eq (options : DiscoveryOptions) (root : Path) :
    definitions files options root =
      (if options.installedTaglibs then
        (installedLibraries files root).flatMap (tagsOfLibrary files) else []) ++
      (options.tagsDirs.flatMap fun directory =>
        tagsOfDirectory files ((rootLibrary? files root).map (·.path)) (root.child directory)) ++
      (library? files (ownFile root)).toList.flatMap (tagsOfLibrary files) := by
  rw [definitions]
  congr 1
  change ((library? files (ownFile root)).map (tagsOfLibrary files)).getD [] = _
  cases library? files (ownFile root) with
  | none => rfl
  | some library => exact (List.flatMap_singleton _ _).symm

end Discovery

theorem tag_of_json_name {name : String} {file : Path} {value : Json} {definition : TagDefinition}
    (read : tagOfJson name file value = .ok definition) : definition.name = name := by
  cases value with
  | object members =>
      simp only [tagOfJson, tagDefinition, bind, Except.bind] at read
      split at read
      · cases read
        rfl
      · split at read
        · cases read
          rfl
        · cases read
  | _ => cases read

/-- A tag is declared under its name in angle brackets, and the one that stands
for all tags also under its bare name. -/
theorem tag_of_key_spelled {key name : String} (declares : tagOfKey? key = some name) :
    key = "*" ∧ name = globalTag ∨ key = "<" ++ name ++ ">" := by
  rw [tagOfKey?] at declares
  split at declares
  · rename_i bare
    cases declares
    exact Or.inl ⟨bare, rfl⟩
  · split at declares
    · rename_i rest spelled
      split at declares
      · rename_i closed
        cases declares
        obtain ⟨front, rfl⟩ := List.getLast?_eq_some_iff.mp closed
        right
        apply String.toList_injective
        simp [spelled]
      · cases declares
    · cases declares

/-- The keys that declare one tag: where there are two, they are the two of the
tag that stands for all, and the one in brackets is the later one. -/
theorem key_before_or_eq {key other name : String} (declares : tagOfKey? key = some name)
    (also : tagOfKey? other = some name) (last : name ≠ globalTag ∨ key = "<*>" ∨ other ≠ "<*>") :
    other = key ∨ bytes other < bytes key := by
  rcases tag_of_key_spelled declares with ⟨rfl, rfl⟩ | rfl
  · rcases tag_of_key_spelled also with ⟨rfl, -⟩ | rfl
    · exact Or.inl rfl
    · rcases last with other | same | different
      · exact absurd rfl other
      · exact absurd same (by decide)
      · exact absurd rfl different
  · rcases tag_of_key_spelled also with ⟨rfl, rfl⟩ | rfl
    · exact Or.inr (by decide)
    · exact Or.inl rfl

end TemplateServer.Taglib
