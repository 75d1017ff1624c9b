import TemplateServer.Proofs.Server.Calls
import TemplateServer.Proofs.Taglib.Scanning
import TemplateServer.Proofs.Text.Boundary

/-!
Which changes of a file the tags of a project depend on. The discovery of tags
opens or tests files of a few fixed names, and takes entries with the ending of a
template. A change of any other file leaves the tags of every project as they
are; all those files are watched but one, the renderer of a tag.
-/

namespace TemplateServer.Taglib

open FileSystem (DiffersAt)

/-- The names of files that the discovery of tags opens or tests. -/
def testedNames : List String :=
  [libraryFileName, tagFileName, packageFileName, "index.marko", "template.marko", "renderer.js"]

theorem tested_name_proper {name : String} (tested : name ∈ testedNames) : ProperName name := by
  have all : ∀ name ∈ testedNames,
      Path.isIdle (.name name) = false ∧ name ≠ ".." ∧ '/' ∉ name.toList := by decide
  obtain ⟨named, down, slash⟩ := all name tested
  exact ⟨named, down, slash⟩

/-- A file that the discovery of tags passes over by its name. -/
structure PassedOver (name : String) : Prop where
  untested : name ∉ testedNames
  no_template : name.toList.head? = some '.' ∨ withoutEnding? ".marko" name = none

section Discovery

variable {location : List String} {before after : FileSystem} {name : String}

variable (differs : DiffersAt location before after) (ends : location.getLast? = some name)
  (passed : PassedOver name)

include ends passed in
theorem last_name_untested {tested : String} (member : tested ∈ testedNames) :
    location.getLast? ≠ some tested := by
  intro same
  rw [ends] at same
  cases same
  exact passed.untested member

include differs ends passed

theorem is_file_unchanged {tested : String} (member : tested ∈ testedNames) (path : Path) :
    before.isFile (path.child tested) = after.isFile (path.child tested) :=
  differs.is_file_child (tested_name_proper member) (last_name_untested ends passed member) path

theorem read_text_unchanged {tested : String} (member : tested ∈ testedNames) (path : Path) :
    (before.readText (path.child tested)).toOption =
      (after.readText (path.child tested)).toOption :=
  differs.read_text_child (tested_name_proper member) (last_name_untested ends passed member) path

omit differs ends in
theorem passed_over_unscanned : Unscanned name := by
  have listed : ∀ tested ∈ tagFiles, tested ∈ testedNames := by decide
  exact ⟨fun member => passed.untested (listed name member), passed.no_template⟩

theorem library_unchanged (directory : Path) :
    library? before (directory.child libraryFileName) =
      library? after (directory.child libraryFileName) := by
  have tested : libraryFileName ∈ testedNames := by decide
  rw [library?, library?, is_file_unchanged differs ends passed tested, read_library_eq,
    read_library_eq, read_text_unchanged differs ends passed tested]

theorem package_members_unchanged (directory : Path) :
    packageMembers? before directory = packageMembers? after directory := by
  have tested : packageFileName ∈ testedNames := by decide
  rw [package_members_eq, package_members_eq, read_text_unchanged differs ends passed tested]

theorem definitions_unchanged (proper : ProperName name) (options : DiscoveryOptions)
    (root : Path) : definitions before options root = definitions after options root := by
  apply definitions_of_answers
  · exact tags_of_directory_unchanged differs ends (passed_over_unscanned passed) proper
  · exact library_unchanged differs ends passed
  · exact package_members_unchanged differs ends passed

end Discovery

theorem without_ending_spelled {ending text stem : String}
    (found : withoutEnding? ending text = some stem) :
    text.toList = stem.toList ++ ending.toList := by
  rw [withoutEnding?] at found
  split at found
  · rename_i ends
    cases found
    obtain ⟨-, tail⟩ := Bool.and_eq_true _ _ |>.mp ends
    rw [String.toList_ofList, ← eq_of_beq tail, List.take_append_drop]
  · cases found

/-- A template's name has the extension of templates. -/
theorem template_extension {name stem : String}
    (spelled : name.toList = stem.toList ++ ".marko".toList) (named : stem ≠ "") :
    (PathPiece.name name).extension? = some (.name "marko") := by
  have whole : name = stem ++ ".marko" := by
    apply String.toList_injective
    rw [spelled, String.toList_append]
  have ending : (Text.bytes ".marko").reverse = [0x6F, 0x6B, 0x72, 0x61, 0x6D, 0x2E] := by decide
  have stemBytes : (Text.bytes stem).reverse ≠ [] := by
    intro empty
    have same : Text.bytes stem = Text.bytes "" := List.reverse_eq_nil_iff.mp empty
    exact named (Text.bytes_injective same)
  rw [PathPiece.extension?, PathPiece.bytes, whole, Text.bytes_append, List.reverse_append, ending]
  obtain ⟨first, rest, front⟩ := List.exists_cons_of_ne_nil stemBytes
  have taken : List.takeWhile (· != 0x2E) ([0x6F, 0x6B, 0x72, 0x61, 0x6D, 0x2E] ++ first :: rest) =
      [0x6F, 0x6B, 0x72, 0x61, 0x6D] := rfl
  have marko : PathPiece.ofBytes [0x6D, 0x61, 0x72, 0x6B, 0x6F] = .name "marko" := by
    decide +kernel
  simp only [front, taken]
  exact congrArg some marko

theorem passed_over_of_unwatched {path : Path} {name : String}
    (called : path.fileName? = some (.name name))
    (unwatched : Server.isTaglibSource path = false) (other : name ≠ "renderer.js") :
    PassedOver name := by
  simp only [Server.isTaglibSource, Path.extension?, called, Option.any_some, Option.bind_some,
    Bool.or_eq_false_iff, beq_eq_false_iff_ne, ne_eq, PathPiece.name.injEq] at unwatched
  obtain ⟨⟨⟨library, tag⟩, package⟩, extension⟩ := unwatched
  have template : ∀ stem, stem ≠ "" → name.toList ≠ stem.toList ++ ".marko".toList := by
    intro stem named spelled
    exact extension (template_extension spelled named)
  constructor
  · intro tested
    simp only [testedNames, List.mem_cons, List.not_mem_nil, or_false] at tested
    rcases tested with rfl | rfl | rfl | rfl | rfl | rfl
    · exact library rfl
    · exact tag rfl
    · exact package rfl
    · exact template "index" (by decide) (by decide)
    · exact template "template" (by decide) (by decide)
    · exact other rfl
  · cases found : withoutEnding? ".marko" name with
    | none => exact Or.inr rfl
    | some stem =>
        have spelled := without_ending_spelled found
        by_cases named : stem = ""
        · rw [named] at spelled
          rw [spelled]
          exact Or.inl rfl
        · exact absurd spelled (template stem named)

theorem of_bytes_proper {spelled : List UInt8} {name : String}
    (member : .name name ∈ (Path.ofBytes spelled).pieces)
    (named : Path.isIdle (.name name) = false) (down : name ≠ "..") : ProperName name := by
  have noSlash : 0x2F ∉ Text.bytes name := by
    have piece : ∀ bytes, .name name ∈ (Text.pieces 0x2F bytes).map PathPiece.ofBytes →
        (0x2F : UInt8) ∉ Text.bytes name := by
      intro bytes found
      obtain ⟨source, present, same⟩ := List.mem_map.mp found
      rw [PathPiece.ofBytes] at same
      split at same
      · rename_i text decoded
        cases same
        rw [← Text.decode_some_iff.mp decoded]
        exact separator_absent source present
      · cases same
    rw [Path.ofBytes.eq_def] at member
    split at member
    · cases member
    · cases member
    · exact piece _ member
    · exact piece _ member
  refine ⟨named, down, ?_⟩
  intro slash
  apply noSlash
  rw [Text.bytes_eq_encoded, List.mem_flatMap]
  exact ⟨'/', slash, by decide⟩

/-- Every change of a file that a project's tags can depend on is reported as one,
apart from those of renderers: a change of another unwatched file, such as its
creation or its removal, leaves all tags as they are. A report of a change that
does matter leaves no project loaded. -/
theorem watched_changes_complete (spelled : List UInt8) (location : List String)
    (before after : FileSystem) (differs : DiffersAt location before after)
    (absolute : (Path.ofBytes spelled).absolute = true)
    (located : before.locate (Path.ofBytes spelled) = .ok location)
    (noRenderer : (Path.ofBytes spelled).fileName? ≠ some (.name "renderer.js")) :
    (Server.isTaglibSource (Path.ofBytes spelled) = false →
      ∀ options root, (load before options root).tags = (load after options root).tags) ∧
    ∀ (server : Server) (uris : List String), ∀ uri ∈ uris,
      Server.pathOfUri? uri = some (Path.ofBytes spelled) →
      (∃ options root, (load before options root).tags ≠ (load after options root).tags) →
      (server.didChangeWatchedFiles after uris).1.cache.lookups = [] := by
  obtain ⟨parent, name, rfl, called, member, named, down⟩ :=
    before.file_name_of_located absolute located differs.no_directory
  have unchanged : Server.isTaglibSource (Path.ofBytes spelled) = false →
      ∀ options root, (load before options root).tags = (load after options root).tags := by
    intro unwatched options root
    have other : name ≠ "renderer.js" := by
      intro same
      rw [same] at called
      exact noRenderer called
    have passed := passed_over_of_unwatched called unwatched other
    have proper := of_bytes_proper member named down
    have ends : (parent ++ [name]).getLast? = some name := List.getLast?_concat
    rw [load, load, definitions_unchanged differs ends passed proper options root]
    rfl
  refine ⟨unchanged, ?_⟩
  intro server uris uri reported given matters
  obtain ⟨options, root, different⟩ := matters
  have watched : Server.isTaglibSource (Path.ofBytes spelled) = true := by
    apply Decidable.byContradiction
    intro unwatched
    exact different (unchanged (Bool.not_eq_true _ |>.mp unwatched) options root)
  have clears : NamesFile (fun path => Server.isTaglibSource path = true ∨ IsConfigPath path)
      uris := ⟨uri, reported, _, given, Or.inl watched⟩
  by_cases config : NamesFile IsConfigPath uris
  · rw [Server.watched_config config]
    rfl
  · rw [Server.watched_source config clears]
    rfl

def legacyFiles : FileSystem :=
  { entries := [(["components"], .directory), (["components", "legacy"], .directory)]
    workingDirectory := ⟨true, []⟩
    configDirectory := none }

def legacyFilesWith (name : String) : FileSystem :=
  legacyFiles.put ["components", "legacy", name] (.file [])

def legacyServer : Server := (Server.initial.loadProject legacyFiles ⟨true, []⟩).2

/-- A template makes the directory a tag, and a report of it is taken in. -/
theorem watched_changes_complete_template :
    legacyServer.cache.lookups ≠ [] ∧
      (legacyServer.didChangeWatchedFiles (legacyFilesWith "index.marko")
        ["file:///components/legacy/index.marko"]).1.cache.lookups = [] := by
  have differs := FileSystem.differs_put (show legacyFiles.entryAt?
    ["components", "legacy", "index.marko"] ≠ some .directory by decide) []
  have matters : (load legacyFiles .default ⟨true, []⟩).tags ≠
      (load (legacyFilesWith "index.marko") .default ⟨true, []⟩).tags := by decide +kernel
  refine ⟨by decide +kernel, ?_⟩
  exact (watched_changes_complete (Text.bytes "/components/legacy/index.marko") _ _ _ differs
    (by decide +kernel) (by decide +kernel) (by decide +kernel)).2 legacyServer _ _
    (List.mem_singleton_self _) (by decide +kernel) ⟨_, _, matters⟩

/-- A renderer makes the directory a tag too, but no report of it is taken in. -/
theorem renderer_change_missed :
    Server.isTaglibSource (Path.ofText "/components/legacy/renderer.js") = false ∧
      FileSystem.DiffersAt ["components", "legacy", "renderer.js"] legacyFiles
        (legacyFilesWith "renderer.js") ∧
      (load legacyFiles .default ⟨true, []⟩).tags ≠
        (load (legacyFilesWith "renderer.js") .default ⟨true, []⟩).tags ∧
      (legacyServer.didChangeWatchedFiles (legacyFilesWith "renderer.js")
        ["file:///components/legacy/renderer.js"]).1.cache = legacyServer.cache := by
  refine ⟨by decide +kernel, FileSystem.differs_put (by decide) [], by decide +kernel, ?_⟩
  decide +kernel

end TemplateServer.Taglib
