import TemplateServer.Proofs.Dictionary
import TemplateServer.Proofs.FileSystem.Location

/-!
What a change of one file leaves as it was. Two file systems that differ at one
location, where neither has a directory, have the same directories under every
path, the same files under every path that ends in another name, and the same
entries in every directory, the changed one apart.
-/

namespace TemplateServer.FileSystem

/-- Nothing differs but what stands at one location, and no directory stands
there. -/
structure DiffersAt (location : List String) (before after : FileSystem) : Prop where
  elsewhere : ∀ other, other ≠ location → before.entryAt? other = after.entryAt? other
  no_directory : before.entryAt? location ≠ some .directory
  no_later_directory : after.entryAt? location ≠ some .directory
  working_directory : before.workingDirectory = after.workingDirectory

theorem find_apart (files : FileSystem) {location other : List String} (apart : other ≠ location) :
    (files.entries.filter fun old => old.1 != location).find? (fun entry => entry.1 == other) =
      files.entries.find? fun entry => entry.1 == other := by
  rw [List.find?_filter]
  congr 1
  funext entry
  by_cases same : entry.1 = other
  · simp [same, apart]
  · simp [same]

/-- A file that is written where no directory stands is such a difference. -/
theorem differs_put {files : FileSystem} {location : List String}
    (noDirectory : files.entryAt? location ≠ some .directory) (content : List UInt8) :
    DiffersAt location files (files.put location (.file content)) := by
  have below : location ≠ [] := by
    intro root
    rw [root] at noDirectory
    exact noDirectory rfl
  constructor
  · intro other apart
    have last : [(location, FileEntry.file content)].find? (fun entry => entry.1 == other) =
        none := by simp [Ne.symm apart]
    rw [entryAt?, entryAt?, put, List.find?_append, last, Option.or_none, find_apart files apart]
  · exact noDirectory
  · have first : (files.entries.filter fun old => old.1 != location).find?
        (fun entry => entry.1 == location) = none := by simp
    rw [entryAt?, if_neg below, put, List.find?_append, first]
    simp
  · rfl

namespace DiffersAt

variable {location : List String} {before after : FileSystem}

theorem symm (differs : DiffersAt location before after) : DiffersAt location after before :=
  ⟨fun other apart => (differs.elsewhere other apart).symm, differs.no_later_directory,
    differs.no_directory, differs.working_directory.symm⟩

theorem directory (differs : DiffersAt location before after) {other : List String}
    (found : before.entryAt? other = some .directory) :
    after.entryAt? other = some .directory := by
  by_cases same : other = location
  · rw [same] at found
    exact absurd found differs.no_directory
  · rw [← differs.elsewhere other same, found]

theorem follow (differs : DiffersAt location before after) {start next : List String}
    {piece : PathPiece} (followed : before.follow start piece = .ok next) :
    after.follow start piece = .ok next := by
  have entry := (before.follow_cases followed).1
  rw [FileSystem.follow.eq_def, entry] at followed
  rw [FileSystem.follow.eq_def, differs.directory entry]
  exact followed

theorem walk (differs : DiffersAt location before after) {start last : List String}
    {pieces : List PathPiece} (walked : before.walk start pieces = .ok last) :
    after.walk start pieces = .ok last := by
  induction pieces generalizing start with
  | nil => exact walked
  | cons piece pieces induction =>
      rw [walk_cons] at walked ⊢
      cases first : before.follow start piece with
      | error cause =>
          rw [first] at walked
          cases walked
      | ok next =>
          rw [first] at walked
          rw [differs.follow first]
          exact induction walked

theorem locate (differs : DiffersAt location before after) {path : Path} {last : List String}
    (located : before.locate path = .ok last) : after.locate path = .ok last := by
  rw [FileSystem.locate, piecesFromRoot, ← differs.working_directory]
  exact differs.walk located

/-- What is found away from the changed location is still found. -/
theorem resolve (differs : DiffersAt location before after) {path : Path} {other : List String}
    {entry : FileEntry} (apart : other ≠ location)
    (resolved : before.resolve path = .ok (other, entry)) :
    after.resolve path = .ok (other, entry) := by
  obtain ⟨given, short, located, found⟩ := (before.resolve_ok_iff path other entry).mp resolved
  rw [differs.elsewhere other apart] at found
  exact (after.resolve_ok_iff path other entry).mpr ⟨given, short, differs.locate located, found⟩

theorem resolve_directory (differs : DiffersAt location before after) {path : Path}
    {other : List String} (resolved : before.resolve path = .ok (other, .directory)) :
    after.resolve path = .ok (other, .directory) := by
  apply differs.resolve _ resolved
  rintro rfl
  exact differs.no_directory ((before.resolve_ok_iff path other .directory).mp resolved).2.2.2

theorem is_directory (differs : DiffersAt location before after) (path : Path) :
    before.isDirectory path = after.isDirectory path := by
  rw [Bool.eq_iff_iff, is_directory_iff, is_directory_iff]
  constructor
  · intro found
    obtain ⟨other, resolved⟩ := found
    exact ⟨other, differs.resolve_directory resolved⟩
  · intro found
    obtain ⟨other, resolved⟩ := found
    exact ⟨other, differs.symm.resolve_directory resolved⟩

theorem list_is_some (differs : DiffersAt location before after) {path : Path}
    {names : List String} (listed : before.list? path = some names) :
    ∃ others, after.list? path = some others := by
  obtain ⟨place, resolved, -⟩ := before.mem_list_iff listed
  simp only [list?, differs.resolve_directory resolved]
  exact ⟨_, rfl⟩

/-- A directory has the same entries, unless it is the one with the changed file. -/
theorem mem_list (differs : DiffersAt location before after) {path : Path}
    {names others : List String} (listed : before.list? path = some names)
    (alsoListed : after.list? path = some others) (name : String)
    (apart : ∀ parent, before.locate path = .ok parent → parent ++ [name] ≠ location) :
    name ∈ names ↔ name ∈ others := by
  obtain ⟨place, resolved, members⟩ := before.mem_list_iff listed
  obtain ⟨otherPlace, otherResolved, otherMembers⟩ := after.mem_list_iff alsoListed
  rw [differs.resolve_directory resolved] at otherResolved
  cases otherResolved
  obtain ⟨-, -, located, -⟩ := (before.resolve_ok_iff path place .directory).mp resolved
  rw [members, otherMembers, differs.elsewhere _ (apart place located)]

section OtherName

variable {name : String} (proper : ProperName name) (other : location.getLast? ≠ some name)
include proper other

/-- A file that has another name than the changed one is another file. -/
theorem resolve_child (differs : DiffersAt location before after) {path : Path}
    {found : List String × FileEntry} (resolved : before.resolve (path.child name) = .ok found) :
    after.resolve (path.child name) = .ok found := by
  obtain ⟨place, entry⟩ := found
  obtain ⟨-, -, located, -⟩ := (before.resolve_ok_iff _ place entry).mp resolved
  obtain ⟨parent, -, rfl⟩ := before.locate_child proper located
  apply differs.resolve _ resolved
  intro same
  rw [← same, List.getLast?_concat] at other
  exact other rfl

theorem is_file_child (differs : DiffersAt location before after) (path : Path) :
    before.isFile (path.child name) = after.isFile (path.child name) := by
  rw [Bool.eq_iff_iff, is_file_iff, is_file_iff]
  constructor
  · intro found
    obtain ⟨place, content, resolved⟩ := found
    exact ⟨place, content, differs.resolve_child proper other resolved⟩
  · intro found
    obtain ⟨place, content, resolved⟩ := found
    exact ⟨place, content, differs.symm.resolve_child proper other resolved⟩

theorem read_text_child (differs : DiffersAt location before after) (path : Path) :
    (before.readText (path.child name)).toOption = (after.readText (path.child name)).toOption := by
  have read : ∀ text, before.readText (path.child name) = .ok text ↔
      after.readText (path.child name) = .ok text := by
    intro text
    rw [read_text_iff, read_text_iff]
    constructor
    · intro found
      obtain ⟨place, content, resolved, decoded⟩ := found
      exact ⟨place, content, differs.resolve_child proper other resolved, decoded⟩
    · intro found
      obtain ⟨place, content, resolved, decoded⟩ := found
      exact ⟨place, content, differs.symm.resolve_child proper other resolved, decoded⟩
  cases first : before.readText (path.child name) with
  | ok contents => rw [(read contents).mp first]
  | error cause =>
      cases second : after.readText (path.child name) with
      | error reason => rfl
      | ok contents =>
          rw [(read contents).mpr second] at first
          cases first

end OtherName

end DiffersAt

structure FileRemoved (location : List String) (before after : FileSystem) : Prop
    extends DiffersAt location before after where
  absent : after.entryAt? location = none

/-- To delete a file is to remove it, as nothing stands below a file. -/
theorem file_removed_delete {files : FileSystem} {location : List String} {content : List UInt8}
    (there : files.entryAt? location = some (.file content))
    (leaf : ∀ entry ∈ files.entries, location <+: entry.1 → entry.1 = location) :
    FileRemoved location files (files.delete location) := by
  have below : location ≠ [] := by
    intro root
    rw [root] at there
    cases there
  have kept : (files.delete location).entries =
      files.entries.filter fun entry => entry.1 != location := by
    unfold delete
    apply List.filter_congr
    intro entry member
    rw [Bool.eq_iff_iff]
    simp only [Bool.not_eq_true', Bool.eq_false_iff, ne_eq, List.isPrefixOf_iff_prefix,
      bne_iff_ne]
    apply not_congr
    constructor
    · exact leaf entry member
    · intro same
      exact ⟨[], (List.append_nil location).trans same.symm⟩
  have gone : (files.delete location).entryAt? location = none := by
    rw [entryAt?, if_neg below, kept]
    simp
  constructor
  · constructor
    · intro other apart
      rw [entryAt?, entryAt?, kept, find_apart files apart]
    · rw [there]
      intro same
      cases same
    · rw [gone]
      intro same
      cases same
    · rfl
  · exact gone

namespace FileRemoved

variable {location : List String} {before after : FileSystem}
  (removed : FileRemoved location before after)

include removed

/-- What a path leads to once the file is gone: what it led to, but for the file. -/
theorem resolve_iff (path : Path) (place : List String) (entry : FileEntry) :
    after.resolve path = .ok (place, entry) ↔
      before.resolve path = .ok (place, entry) ∧ place ≠ location := by
  constructor
  · intro resolved
    have apart : place ≠ location := by
      intro same
      obtain ⟨-, -, -, found⟩ := (after.resolve_ok_iff path place entry).mp resolved
      rw [same, removed.absent] at found
      cases found
    exact ⟨removed.symm.resolve apart resolved, apart⟩
  · intro resolved
    exact removed.resolve resolved.2 resolved.1

/-- Away from the file nothing has changed, but for the reason why nothing is found. -/
theorem resolve_cases (path : Path) :
    after.resolve path = before.resolve path ∨
      ∃ cause, after.resolve path = .error cause ∧
        ((∃ reason, before.resolve path = .error reason) ∨
          ∃ entry, before.resolve path = .ok (location, entry)) := by
  cases later : after.resolve path with
  | ok found =>
      obtain ⟨place, entry⟩ := found
      exact Or.inl ((removed.resolve_iff path place entry).mp later).1.symm
  | error cause =>
      refine Or.inr ⟨cause, rfl, ?_⟩
      cases earlier : before.resolve path with
      | error reason => exact Or.inl ⟨reason, rfl⟩
      | ok found =>
          obtain ⟨place, entry⟩ := found
          by_cases same : place = location
          · exact Or.inr ⟨entry, by rw [same]⟩
          · rw [(removed.resolve_iff path place entry).mpr ⟨earlier, same⟩] at later
            cases later

theorem is_file_iff (path : Path) :
    after.isFile path = true ↔
      ∃ place content, before.resolve path = .ok (place, .file content) ∧ place ≠ location := by
  rw [FileSystem.is_file_iff]
  simp only [removed.resolve_iff]

theorem read_text_iff (path : Path) (text : String) :
    after.readText path = .ok text ↔
      ∃ place content, before.resolve path = .ok (place, .file content) ∧ place ≠ location ∧
        Text.decode? content = some text := by
  rw [FileSystem.read_text_iff]
  simp only [removed.resolve_iff, and_assoc]

end FileRemoved

end TemplateServer.FileSystem
