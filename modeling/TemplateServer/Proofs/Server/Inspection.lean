import TemplateServer.Inspect
import TemplateServer.Proofs.FileSystem.Location
import TemplateServer.Proofs.Text.Position

/-!
A look at a file without a session, against a session that was started for it. Both
work the settings out from the project of the file, and both find the tags with a
cache that holds nothing yet. So they come to the same targets, and fail for the
same tags; the session only leaves out the targets whose addresses its client would
not understand.
-/

namespace TemplateServer

namespace Path

/-- The components that cleaning an absolute path keeps on its way: names alone, since
`..` has nothing to climb to above the root. -/
def KeptNames (kept : List Component) : Prop :=
  ∀ component ∈ kept, ∃ piece, component = .normal piece ∧ isIdle piece = false

theorem component_named {path : Path} (absolute : path.absolute = true) {piece : PathPiece}
    (member : .normal piece ∈ path.components) : isIdle piece = false := by
  rw [components, if_pos absolute] at member
  obtain root | listed := List.mem_cons.mp member
  · cases root
  · obtain ⟨other, kept, equal⟩ := List.mem_map.mp listed
    have named := (List.mem_filter.mp kept).2
    split at equal
    · cases equal
    · cases equal
      simpa using named

theorem cleaned_pieces_named {path : Path} (absolute : path.absolute = true) :
    ∀ piece ∈ path.cleaned.pieces, isIdle piece = false := by
  simp only [cleaned, absolute, Bool.not_true, Bool.and_false, Bool.false_eq_true, if_false,
    if_true, List.mem_map, List.mem_reverse]
  rintro piece ⟨component, member, rfl⟩
  obtain ⟨piece, rfl, named⟩ : ∃ piece, component = .normal piece ∧ isIdle piece = false := by
    refine List.foldlRecOn (motive := KeptNames) path.components _ ?_ ?_ component member
    · intro component member
      cases member
    · intro kept names component given other member
      split at member
      · exact names other member
      · exact names other member
      · exact names other (List.mem_cons_of_mem _ member)
      · exact names other member
      · rcases List.mem_cons.mp member with rfl | earlier
        · exact ⟨_, rfl, component_named absolute given⟩
        · exact names other earlier
  exact named

section Clean

variable {path : Path} (absolute : path.absolute = true)
  (named : ∀ piece ∈ path.pieces, isIdle piece = false)

include absolute named

theorem from_root_of_named (directory : Path) : path.fromRoot directory = path := by
  have whole : (path.pieces.filter fun piece => !isIdle piece) = path.pieces :=
    List.filter_eq_self.mpr fun piece member => by rw [named piece member, Bool.not_false]
  have ending : path.pieces.getLast? ≠ some (.name "") := by
    intro slash
    have idle := named _ (List.mem_of_getLast? slash)
    exact absurd idle (by decide)
  simp only [fromRoot, absolute, if_true, whole, if_neg ending, List.nil_append, List.append_nil]
  rw [← absolute]

theorem parent_of_named (proper : path.pieces ≠ []) :
    ∃ directory, path.parent? = some directory := by
  obtain ⟨front, piece, split⟩ := (List.eq_nil_or_concat path.pieces).resolve_left proper
  rw [List.concat_eq_append] at split
  have last : isIdle piece = false := named piece (by rw [split]; exact List.mem_concat_self)
  rw [parent?, if_pos absolute, split, trimmed_named last]
  split
  · rename_i empty
    exact absurd empty (by simp)
  · exact ⟨_, rfl⟩

end Clean

end Path

theorem FileSystem.read_text_proper {files : FileSystem} {path : Path} {text : String}
    (absolute : path.absolute = true) (readable : files.readText path = .ok text) :
    path.pieces ≠ [] := by
  intro root
  obtain ⟨location, content, resolved, -⟩ := (files.read_text_iff path text).mp readable
  obtain ⟨-, -, located, there⟩ := (files.resolve_ok_iff path location (.file content)).mp resolved
  rw [locate, piecesFromRoot, if_pos absolute, root, walk] at located
  cases located
  rw [entryAt?, if_pos rfl] at there
  cases there

structure Addresses (url : Url) (path : Path) : Prop where
  made : Url.ofFilePath? path = some url
  readBack : Server.pathOfUri? url.text = some path

theorem Definition.at_offset_error {registry : Registry} {files : FileSystem} {document : Path}
    {text : String} {offset : Nat} {settings : Settings} {error : ServerError}
    (failed : atOffset registry files document text offset settings = .error error) :
    ∃ tag, error = .unresolvedTag tag := by
  rw [atOffset] at failed
  split at failed
  · cases failed
  · rename_i scope found
    rw [ofScope] at failed
    split at failed
    · rw [ofTag] at failed
      dsimp only at failed
      split at failed
      · cases failed
        exact ⟨_, rfl⟩
      · cases failed
    · cases failed
    · cases failed
    · cases failed

/-- The targets of an offset, as they are found with nothing but the settings of a
project: the tags are loaded for this one question. -/
def Definition.fresh (files : FileSystem) (document : Path) (text : String) (offset : Nat)
    (settings : Settings) : Except ServerError (List Target) :=
  let cache := Taglib.Cache.empty (Taglib.DiscoveryOptions.ofSettings settings)
  atOffset (cache.lookup files (directoryOf document)).1.registry files document text offset
    settings

def projectSettings (files : FileSystem) (root : Path) : Settings :=
  (loadSettings files (some root) []).settings

theorem Inspection.of_file_readable {files : FileSystem} {file directory : Path} {text : String}
    (fromRoot : file.fromRoot files.workingDirectory = file)
    (readable : files.readText file = .ok text) (parent : file.parent? = some directory)
    (position : Text.Position) :
    ofFile files file position =
      match Text.offset? text position with
      | none => .error (.configuration (.lineMissing position.line file))
      | some offset =>
          (Definition.fresh files file text offset
            (projectSettings files (Taglib.projectRoot files directory))).map fun definitions =>
              ⟨offset, Markup.scopeAt text offset, definitions⟩ := by
  rw [ofFile, fromRoot, readable, parent]
  dsimp only [bind, Except.bind]
  cases Text.offset? text position with
  | none => rfl
  | some offset =>
      dsimp only [Definition.fresh, projectSettings, Option.map_some]
      cases Definition.atOffset _ files file text offset _ with
      | error error => rfl
      | ok definitions => rfl

namespace Server

def opening (files : FileSystem) (hints : WorkspaceHints) (uri text : String) (version : Int)
    (languageId : String) : Server :=
  (initial.start files hints none).1.didOpen uri text version languageId

theorem start_in_folder {files : FileSystem} {hints : WorkspaceHints} {folder : String}
    {root : Path} (first : hints.folders.head? = some folder)
    (rooted : pathOfUri? folder = some root) :
    (initial.start files hints none).1 =
      { initial with
        root := some root
        settings := projectSettings files root
        cache := .empty (Taglib.DiscoveryOptions.ofSettings (projectSettings files root)) } := by
  have fresh (before after : Taglib.DiscoveryOptions) :
      (Taglib.Cache.empty before).setOptions after = Taglib.Cache.empty after := by
    rw [Taglib.Cache.setOptions]
    split
    · rename_i same
      cases same
      rfl
    · rfl
  obtain ⟨others, folders⟩ := List.head?_eq_some_iff.mp first
  have found : workspaceRoot? files hints = some (root, "workspace folders") := by
    rw [workspaceRoot?, folders]
    dsimp only
    rw [rooted, Option.map_some]
  rw [start, found, withRoot]
  dsimp only [reloadSettings, applySettings, settingsOutcome, clientLayers, initial]
  rw [fresh]
  rfl

theorem goto_definition_opened {server : Server} {files : FileSystem} {uri : String} {path : Path}
    (named : pathOfUri? uri = some path) (text : String) (version : Int) (languageId : String)
    (position : Text.Position)
    (fresh : server.cache = .empty (Taglib.DiscoveryOptions.ofSettings server.settings)) :
    ((server.didOpen uri text version languageId).gotoDefinition files uri position).2.2 =
      match Text.offset? text position with
      | none => .ok none
      | some offset =>
          (Definition.fresh files path text offset server.settings).map locations? := by
  rw [pathOfUri?] at named
  obtain ⟨url, parsed, located⟩ := Option.bind_eq_some_iff.mp named
  have stored : (server.documents.insert url ⟨text, some version, some languageId⟩).get? url =
      some ⟨text, some version, some languageId⟩ :=
    Dictionary.get_insert_self server.documents url.text _
  rw [gotoDefinition, didOpen, parsed]
  dsimp only
  rw [located, stored]
  dsimp only
  cases Text.offset? text position with
  | none => rfl
  | some offset =>
      dsimp only [loadProject, Definition.fresh]
      rw [fresh]
      cases Definition.atOffset _ files path text offset server.settings with
      | error error => rfl
      | ok targets => rfl

end Server

/-- What a look at a position of a file and the answer of a session can be together. A
session leaves out what its client would not understand, and has no answer where
nothing remains. It fails for the same tags, with the same message; a line that the
text does not have is a failure of the look alone. -/
inductive Inspection.Agrees (file : Path) (text : String) (position : Text.Position) :
    Except ServerError Inspection → Except ServerError (Option (List Target)) → Prop
  | nothing (inspection : Inspection) :
      inspection.definitions.filter (fun target => Url.isStrict target.url.text) = [] →
      Agrees file text position (.ok inspection) (.ok none)
  | targets (inspection : Inspection) :
      inspection.definitions.filter (fun target => Url.isStrict target.url.text) ≠ [] →
      Agrees file text position (.ok inspection)
        (.ok (some (inspection.definitions.filter fun target => Url.isStrict target.url.text)))
  | unresolved (tag : String) :
      Agrees file text position (.error (.unresolvedTag tag)) (.error (.unresolvedTag tag))
  | lineMissing :
      text.toList.count '\n' < position.line →
      Agrees file text position (.error (.configuration (.lineMissing position.line file)))
        (.ok none)

theorem Inspection.agrees_of_found (file : Path) (text : String) (position : Text.Position)
    (inspection : Inspection) :
    Agrees file text position (.ok inspection)
      (.ok (Server.locations? inspection.definitions)) := by
  rw [Server.locations?]
  split
  · rename_i none
    exact .nothing inspection none
  · rename_i some
    exact .targets inspection some

/-- A look at a file agrees with a session that was started in the project of the file
and in which the file is open. -/
theorem inspection_agrees (files : FileSystem) (file : Path) (text : String)
    (position : Text.Position) (hints : WorkspaceHints) (version : Int) (languageId : String)
    (address rootAddress : Url) (absolute : file.absolute = true) (clean : file.cleaned = file)
    (readable : files.readText file = .ok text) (addressed : Addresses address file)
    (rootAddressed :
      Addresses rootAddress (Taglib.projectRoot files (Definition.directoryOf file)))
    (folder : hints.folders.head? = some rootAddress.text) :
    Inspection.Agrees file text position (Inspection.ofFile files file position)
      ((Server.opening files hints address.text text version languageId).gotoDefinition files
        address.text position).2.2 := by
  have named : ∀ piece ∈ file.pieces, Path.isIdle piece = false :=
    clean ▸ Path.cleaned_pieces_named absolute
  obtain ⟨directory, parent⟩ :=
    Path.parent_of_named absolute named (FileSystem.read_text_proper absolute readable)
  have inside : Definition.directoryOf file = directory := by
    rw [Definition.directoryOf, parent, Option.getD_some]
  rw [inside] at rootAddressed
  rw [Inspection.of_file_readable (Path.from_root_of_named absolute named _) readable parent,
    Server.opening, Server.start_in_folder folder rootAddressed.readBack,
    Server.goto_definition_opened addressed.readBack text version languageId position rfl]
  cases found : Text.offset? text position with
  | none => exact .lineMissing ((Text.offset_none_iff text position).mp found)
  | some offset =>
      dsimp only
      cases targets : Definition.fresh files file text offset _ with
      | ok definitions => exact Inspection.agrees_of_found file text position _
      | error error =>
          obtain ⟨tag, rfl⟩ := Definition.at_offset_error targets
          exact .unresolved tag

def sampleProject : FileSystem :=
  { entries :=
      [(["w"], .directory),
        (["w", Taglib.packageFileName], .file (Text.bytes "{}")),
        (["w", configFileName], .file (Text.bytes "tagsDirs = [\"ui\"]\n")),
        (["w", "ui"], .directory),
        (["w", "ui", "card.marko"], .file []),
        (["w", "pages"], .directory),
        (["w", "pages", "home.marko"], .file (Text.bytes "<p>\n<card/>"))]
    workingDirectory := ⟨true, []⟩
    configDirectory := none }

def samplePage : Path := Path.ofText "/w/pages/home.marko"

def sampleAddress (names : List String) : Url := ⟨"file", some "", .segments names, none, none⟩

def sampleCard : Target := ⟨sampleAddress ["w", "ui", "card.marko"], Target.startRange⟩

theorem inspection_agrees_project :
    Addresses (sampleAddress ["w", "pages", "home.marko"]) samplePage ∧
      Addresses (sampleAddress ["w"])
        (Taglib.projectRoot sampleProject (Definition.directoryOf samplePage)) ∧
      ((Server.opening sampleProject ⟨["file:///w"], none, none⟩ "file:///w/pages/home.marko"
        "<p>\n<card/>" 1 "marko").gotoDefinition sampleProject "file:///w/pages/home.marko"
          ⟨1, 3⟩).2.2 =
        .ok (some [sampleCard]) := by
  have readable : sampleProject.readText samplePage = .ok "<p>\n<card/>" :=
    (sampleProject.read_text_iff _ _).mpr ⟨["w", "pages", "home.marko"],
      Text.bytes "<p>\n<card/>", by decide +kernel, by decide +kernel⟩
  have page : Addresses (sampleAddress ["w", "pages", "home.marko"]) samplePage :=
    ⟨by decide +kernel, by decide +kernel⟩
  have root : Addresses (sampleAddress ["w"])
      (Taglib.projectRoot sampleProject (Definition.directoryOf samplePage)) :=
    ⟨by decide +kernel, by decide +kernel⟩
  have found : (Inspection.ofFile sampleProject samplePage ⟨1, 3⟩).toOption.map (·.definitions) =
      some [sampleCard] := by decide +kernel
  have agrees := inspection_agrees sampleProject samplePage "<p>\n<card/>" ⟨1, 3⟩
    ⟨["file:///w"], none, none⟩ 1 "marko" _ _ (by decide +kernel) (by decide +kernel) readable
    page root (by decide +kernel)
  refine ⟨page, root, ?_⟩
  have text : (sampleAddress ["w", "pages", "home.marko"]).text = "file:///w/pages/home.marko" := by
    decide +kernel
  rw [text] at agrees
  generalize Inspection.ofFile sampleProject samplePage ⟨1, 3⟩ = looked at found agrees
  generalize (Server.gotoDefinition _ sampleProject "file:///w/pages/home.marko" ⟨1, 3⟩).2.2 =
    answer at agrees
  have strict : [sampleCard].filter (fun target => Url.isStrict target.url.text) =
      [sampleCard] := by decide +kernel
  cases agrees with
  | nothing inspection none =>
      have definitions : inspection.definitions = [sampleCard] := Option.some.inj found
      rw [definitions, strict] at none
      cases none
  | targets inspection kept =>
      have definitions : inspection.definitions = [sampleCard] := Option.some.inj found
      rw [definitions, strict]
  | unresolved tag => cases found
  | lineMissing => cases found

end TemplateServer
