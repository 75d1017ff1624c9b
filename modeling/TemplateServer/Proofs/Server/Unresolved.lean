import TemplateServer.Proofs.Server.Queries
import TemplateServer.Proofs.Text.Position

/-!
How a request for a definition ends. It fails for one reason only: the position
stands on the name of a tag, and nothing is known that implements the tag. All else
that may be missing, from the document to the address of a file, leaves out a target
or the whole answer. The request changes nothing but the projects in the cache.
-/

namespace TemplateServer

inductive Taglib.Implementation.IsBy (known : Implementation) (file : Path) : Prop
  | template : known.template = some file → IsBy known file
  | renderer : known.template = none → known.renderer = some file → IsBy known file

namespace Target

structure StartOf (target : Target) (file : Path) : Prop where
  addressed : Url.ofFilePath? file = some target.url
  understood : Url.isStrict target.url.text = true
  range : target.range = startRange

theorem start_of_iff (file : Path) (target : Target) :
    ((atStart? file).filter fun target => Url.isStrict target.url.text) = some target ↔
      target.StartOf file := by
  rw [Option.filter_eq_some_iff, atStart?, inFile?, Option.map_eq_some_iff]
  constructor
  · rintro ⟨⟨url, addressed, rfl⟩, understood⟩
    exact ⟨addressed, understood, rfl⟩
  · rintro ⟨addressed, understood, range⟩
    obtain ⟨url, shown⟩ := target
    cases range
    exact ⟨⟨url, addressed, rfl⟩, understood⟩

/-- What a client is shown of a target: nothing if it does not understand the address. -/
def Shown (found shown : Option Target) : Prop :=
  ∀ target, shown = some target ↔ found = some target ∧ Url.isStrict target.url.text = true

def answered (targets : List Target) : Option (List Target) :=
  if targets = [] then none else some targets

end Target

theorem Server.locations_answered (targets : List Target) :
    locations? targets =
      Target.answered (targets.filter fun target => Url.isStrict target.url.text) := by
  rw [locations?, Target.answered]
  split
  · rename_i nothing
    rw [nothing, if_pos rfl]
  · rename_i some
    rw [if_neg some]

namespace Definition

variable {registry : Registry} {files : FileSystem} {tag : String}

theorem of_tag_unimplemented (missing : ∀ known, registry.tag? tag = some known →
      known.template = none ∧ known.renderer = none) :
    ofTag registry files tag = .error (.unresolvedTag tag) := by
  have nothing : (((registry.tag? tag).getD .unknown).template.or
      ((registry.tag? tag).getD .unknown).renderer) = none := by
    cases found : registry.tag? tag with
    | none => rfl
    | some known =>
        obtain ⟨template, renderer⟩ := missing known found
        rw [Option.getD_some, template, renderer]
        rfl
  simp only [ofTag, nothing]

theorem of_tag_implemented {known : Taglib.Implementation} {file : Path}
    (found : registry.tag? tag = some known) (implemented : known.IsBy file) :
    ofTag registry files tag = .ok ((Target.atStart? file).toList ++
      (known.taglib.bind fun taglib =>
        if files.isFile taglib then Target.atStart? taglib else none).toList) := by
  have preferred : known.template.or known.renderer = some file := by
    cases implemented with
    | template given => rw [given, Option.some_or]
    | renderer nothing given => rw [nothing, given, Option.none_or]
  simp only [ofTag, found, Option.getD_some, preferred]

end Definition

namespace Server

/-- A position in an open document that stands on something, with the path of the
document. A line that the text does not have holds no position. -/
def PointsAt (server : Server) (uri : String) (position : Text.Position) (path : Path)
    (scope : Markup.Scope) : Prop :=
  ∃ url document offset, Url.parse? uri = some url ∧ url.filePath? = some path ∧
    server.documents.get? url = some document ∧
    position.line ≤ document.text.toList.count '\n' ∧
    Text.offset? document.text position = some offset ∧
    Markup.scopeAt document.text offset = some scope

def Unimplemented (server : Server) (files : FileSystem) (path : Path) (tag : String) : Prop :=
  ∀ known, (server.cache.tag files (Definition.directoryOf path) tag).1 = some known →
    known.template = none ∧ known.renderer = none

section Outcome

variable {server : Server} {files : FileSystem} {uri : String} {position : Text.Position}
  {path : Path} {scope : Markup.Scope}

theorem outcome_nowhere (nowhere : ∀ path scope, ¬ server.PointsAt uri position path scope) :
    (server.gotoDefinition files uri position).2.2 = .ok none := by
  rw [gotoDefinition]
  cases parsed : Url.parse? uri with
  | none => rfl
  | some url =>
      dsimp only
      split
      · rfl
      · rfl
      · rename_i path document located stored
        -- A project is only looked up for a line that is there, and a scope has to be there too.
        cases found : Text.offset? document.text position with
        | none => rfl
        | some offset =>
            have line : position.line ≤ document.text.toList.count '\n' := by
              apply Nat.not_lt.mp
              intro missing
              rw [(Text.offset_none_iff document.text position).mpr missing] at found
              cases found
            have outside : Markup.scopeAt document.text offset = none := by
              rw [Option.eq_none_iff_forall_ne_some]
              intro scope inside
              exact nowhere path scope
                ⟨url, document, offset, parsed, located, stored, line, found, inside⟩
            dsimp only
            rw [Definition.atOffset, outside]
            rfl

theorem outcome_pointing (points : server.PointsAt uri position path scope) :
    (server.gotoDefinition files uri position).2.2 =
      (Definition.ofScope (server.cache.lookup files (Definition.directoryOf path)).1.registry
        files (Definition.directoryOf path) server.settings scope).map locations? := by
  obtain ⟨url, document, offset, parsed, located, stored, -, found, inside⟩ := points
  rw [gotoDefinition, parsed]
  dsimp only
  rw [located, stored]
  dsimp only
  rw [found]
  dsimp only [loadProject]
  rw [Definition.atOffset, inside]
  dsimp only
  cases Definition.ofScope _ files (Definition.directoryOf path) server.settings scope with
  | error error => rfl
  | ok targets => rfl

theorem outcome_unimplemented (points : server.PointsAt uri position path scope)
    (onTag : scope.kind = .tag)
    (missing : server.Unimplemented files path scope.tagName) :
    (server.gotoDefinition files uri position).2.2 = .error (.unresolvedTag scope.tagName) := by
  have unresolved : Definition.ofTag
      (server.cache.lookup files (Definition.directoryOf path)).1.registry files scope.tagName =
        .error (.unresolvedTag scope.tagName) :=
    Definition.of_tag_unimplemented missing
  rw [outcome_pointing points, Definition.ofScope, onTag]
  exact congrArg (Except.map locations?) unresolved

/-- The implementation comes first, and the descriptor follows if it is there. -/
theorem outcome_implemented (points : server.PointsAt uri position path scope)
    (onTag : scope.kind = .tag) {known : Taglib.Implementation} {file : Path}
    (found : (server.cache.tag files (Definition.directoryOf path) scope.tagName).1 = some known)
    (implemented : known.IsBy file) :
    ∃ implementation descriptor : Option Target,
      (∀ target, implementation = some target ↔ target.StartOf file) ∧
      (∀ target, descriptor = some target ↔ ∃ taglib, known.taglib = some taglib ∧
        files.isFile taglib = true ∧ target.StartOf taglib) ∧
      (server.gotoDefinition files uri position).2.2 =
        .ok (Target.answered (implementation.toList ++ descriptor.toList)) := by
  refine ⟨(Target.atStart? file).filter fun target => Url.isStrict target.url.text,
    (known.taglib.bind fun taglib =>
      if files.isFile taglib then Target.atStart? taglib else none).filter
        fun target => Url.isStrict target.url.text, Target.start_of_iff file, ?_, ?_⟩
  · intro target
    cases known.taglib with
    | none => simp
    | some taglib =>
        rw [Option.bind_some]
        by_cases there : files.isFile taglib = true
        · rw [if_pos there, Target.start_of_iff]
          simp [there]
        · rw [if_neg there]
          simp [there]
  · -- Each target is kept or left out by itself, so the ones that stay are in order.
    rw [outcome_pointing points, Definition.ofScope, onTag]
    dsimp only
    rw [Definition.of_tag_implemented found implemented, Option.toList_filter, Option.toList_filter,
      ← List.filter_append, ← locations_answered]
    rfl

theorem locations_of_one (found : Option Target) :
    locations? found.toList = Target.answered
      (found.filter fun target => Url.isStrict target.url.text).toList := by
  rw [locations_answered, Option.toList_filter]

theorem outcome_declaration (files : FileSystem)
    (points : server.PointsAt uri position path scope) {name : String}
    (onName : scope.kind = .attributeName name) :
    ∃ declaration : Option Target,
      Target.Shown (Definition.ofAttribute?
        (server.cache.lookup files (Definition.directoryOf path)).1.registry files
        scope.tagName name) declaration ∧
      (server.gotoDefinition files uri position).2.2 =
        .ok (Target.answered declaration.toList) := by
  rw [outcome_pointing points, Definition.ofScope, onName]
  exact ⟨_, fun _ => Option.filter_eq_some_iff, congrArg Except.ok (locations_of_one _)⟩

theorem outcome_handler (files : FileSystem)
    (points : server.PointsAt uri position path scope) {name : String}
    (onValue : scope.kind = .attributeValue name) :
    ∃ handler : Option Target,
      Target.Shown (Definition.ofHandler? files (Definition.directoryOf path)
        server.settings.componentFiles name) handler ∧
      (server.gotoDefinition files uri position).2.2 = .ok (Target.answered handler.toList) := by
  rw [outcome_pointing points, Definition.ofScope, onValue]
  exact ⟨_, fun _ => Option.filter_eq_some_iff, congrArg Except.ok (locations_of_one _)⟩

theorem outcome_nothing (points : server.PointsAt uri position path scope)
    (onNothing : scope.kind = .noScope) :
    (server.gotoDefinition files uri position).2.2 = .ok none := by
  rw [outcome_pointing points, Definition.ofScope, onNothing]
  rfl

theorem goto_definition_holding (server : Server) (files : FileSystem) (uri : String)
    (position : Text.Position) :
    ∃ lookups, (server.gotoDefinition files uri position).1 = server.holding lookups := by
  rcases server.goto_definition_cases files uri position with same | ⟨path, -, loaded⟩
  · exact ⟨server.cache.lookups, same⟩
  · exact ⟨_, by rw [loaded, load_project_holding]⟩

/-- A tag that is known and implemented, or one that is not. -/
theorem implemented_or_missing (found : Option Taglib.Implementation) :
    (∃ known file, found = some known ∧ known.IsBy file) ∨
      ∀ known, found = some known → known.template = none ∧ known.renderer = none := by
  cases found with
  | none => exact Or.inr nofun
  | some known =>
      cases template : known.template with
      | some file => exact Or.inl ⟨known, file, rfl, .template template⟩
      | none =>
          cases renderer : known.renderer with
          | some file => exact Or.inl ⟨known, file, rfl, .renderer template renderer⟩
          | none =>
              refine Or.inr ?_
              intro other same
              cases same
              exact ⟨template, renderer⟩

theorem outcome_error_iff (error : ServerError) :
    (server.gotoDefinition files uri position).2.2 = .error error ↔
      ∃ path scope, server.PointsAt uri position path scope ∧ scope.kind = .tag ∧
        server.Unimplemented files path scope.tagName ∧
        error = .unresolvedTag scope.tagName := by
  constructor
  · intro failed
    by_cases nowhere : ∀ path scope, ¬ server.PointsAt uri position path scope
    · rw [outcome_nowhere nowhere] at failed
      cases failed
    · obtain ⟨path, scope, points⟩ : ∃ path scope, server.PointsAt uri position path scope := by
        simpa only [not_forall, not_not] using nowhere
      cases kind : scope.kind with
      | tag =>
          rcases implemented_or_missing
              (server.cache.tag files (Definition.directoryOf path) scope.tagName).1 with
            ⟨known, file, found, implemented⟩ | missing
          · obtain ⟨_, _, -, -, answered⟩ := outcome_implemented points kind found implemented
            rw [answered] at failed
            cases failed
          · rw [outcome_unimplemented points kind missing] at failed
            cases failed
            exact ⟨path, scope, points, kind, missing, rfl⟩
      | attributeName name =>
          obtain ⟨_, -, answered⟩ := outcome_declaration files points kind
          rw [answered] at failed
          cases failed
      | attributeValue name =>
          obtain ⟨_, -, answered⟩ := outcome_handler files points kind
          rw [answered] at failed
          cases failed
      | noScope =>
          rw [outcome_nothing points kind] at failed
          cases failed
  · rintro ⟨path, scope, points, kind, missing, rfl⟩
    exact outcome_unimplemented points kind missing

end Outcome

/-- A definition request fails just for a tag that nothing is known to implement, and
the error names it. Otherwise it has an answer, which is none where there is nothing
to show: for a tag its implementation and then its descriptor, for an attribute name or
a handler at most one target. Nothing changes but the projects in the cache. -/
theorem definition_fails_only_unresolved (server : Server) (files : FileSystem) (uri : String)
    (position : Text.Position) :
    (∀ error, (server.gotoDefinition files uri position).2.2 = .error error ↔
      ∃ path scope, server.PointsAt uri position path scope ∧ scope.kind = .tag ∧
        server.Unimplemented files path scope.tagName ∧
        error = .unresolvedTag scope.tagName ∧
        error.message = "Couldn't find a definition for tag: " ++ scope.tagName) ∧
      ((∀ path scope, ¬ server.PointsAt uri position path scope) →
        (server.gotoDefinition files uri position).2.2 = .ok none) ∧
      (∀ path scope, server.PointsAt uri position path scope →
        (scope.kind = .tag → ∀ known file,
          (server.cache.tag files (Definition.directoryOf path) scope.tagName).1 = some known →
          known.IsBy file → ∃ implementation descriptor : Option Target,
            (∀ target, implementation = some target ↔ target.StartOf file) ∧
            (∀ target, descriptor = some target ↔ ∃ taglib, known.taglib = some taglib ∧
              files.isFile taglib = true ∧ target.StartOf taglib) ∧
            (server.gotoDefinition files uri position).2.2 =
              .ok (Target.answered (implementation.toList ++ descriptor.toList))) ∧
        (∀ name, scope.kind = .attributeName name → ∃ declaration : Option Target,
          Target.Shown (Definition.ofAttribute?
            (server.cache.lookup files (Definition.directoryOf path)).1.registry files
            scope.tagName name) declaration ∧
            (server.gotoDefinition files uri position).2.2 =
              .ok (Target.answered declaration.toList)) ∧
        (∀ name, scope.kind = .attributeValue name → ∃ handler : Option Target,
          Target.Shown (Definition.ofHandler? files (Definition.directoryOf path)
            server.settings.componentFiles name) handler ∧
            (server.gotoDefinition files uri position).2.2 =
              .ok (Target.answered handler.toList)) ∧
        (scope.kind = .noScope → (server.gotoDefinition files uri position).2.2 = .ok none)) ∧
      (server.gotoDefinition files uri position).1.documents = server.documents ∧
      (server.gotoDefinition files uri position).1.settings = server.settings ∧
      (server.gotoDefinition files uri position).1.root = server.root ∧
      (server.gotoDefinition files uri position).1.initializationOptions =
        server.initializationOptions ∧
      (server.gotoDefinition files uri position).1.clientConfiguration =
        server.clientConfiguration := by
  refine ⟨?_, outcome_nowhere, ?_, ?_⟩
  · intro error
    rw [outcome_error_iff]
    constructor
    · rintro ⟨path, scope, points, kind, missing, rfl⟩
      exact ⟨path, scope, points, kind, missing, rfl, rfl⟩
    · rintro ⟨path, scope, points, kind, missing, same, -⟩
      exact ⟨path, scope, points, kind, missing, same⟩
  · intro path scope points
    exact ⟨fun kind _ _ => outcome_implemented points kind,
      fun _ => outcome_declaration files points, fun _ => outcome_handler files points,
      outcome_nothing points⟩
  · obtain ⟨lookups, held⟩ := server.goto_definition_holding files uri position
    rw [held]
    exact ⟨rfl, rfl, rfl, rfl, rfl⟩

def describedProject : FileSystem :=
  { entries :=
      [(["w"], .directory), (["w", "package.json"], .file []),
        (["w", "marko.json"], .file (Text.bytes
          "\x7b\"<card>\": \x7b\"template\": \"./card.marko\"\x7d\x7d")),
        (["w", "card.marko"], .file [])]
    workingDirectory := ⟨true, []⟩
    configDirectory := none }

def describedPage : String := "<ghost/>\n<card/>"

def describedServer : Server := initial.didOpen "file:///w/x.marko" describedPage 1 "marko"

def describedUrl (name : String) : Url := ⟨"file", some "", .segments ["w", name], none, none⟩

theorem described_page_points {position : Text.Position} {offset : Nat} {scope : Markup.Scope}
    (line : position.line ≤ 1) (found : Text.offset? describedPage position = some offset)
    (inside : Markup.scopeAt describedPage offset = some scope) :
    describedServer.PointsAt "file:///w/x.marko" position (Path.ofText "/w/x.marko") scope :=
  ⟨describedUrl "x.marko", ⟨describedPage, some 1, some "marko"⟩, offset, by decide +kernel,
    by decide +kernel, by decide +kernel, line, found, inside⟩

/-- The first tag is nowhere described and is an error. The second has two targets, and
the position behind the last line has none. -/
theorem definition_fails_only_unresolved_ghost :
    (describedServer.gotoDefinition describedProject "file:///w/x.marko" ⟨0, 3⟩).2.2 =
        .error (.unresolvedTag "ghost") ∧
      (describedServer.gotoDefinition describedProject "file:///w/x.marko" ⟨1, 2⟩).2.2 =
        .ok (some [⟨describedUrl "card.marko", Target.startRange⟩,
          ⟨describedUrl "marko.json", Target.startRange⟩]) ∧
      (describedServer.gotoDefinition describedProject "file:///w/x.marko" ⟨2, 0⟩).2.2 =
        .ok none := by
  have card : (describedServer.cache.tag describedProject
      (Definition.directoryOf (Path.ofText "/w/x.marko")) "card").1 =
        some ⟨some (Path.ofText "/w/card.marko"), none, some (Path.ofText "/w/marko.json")⟩ := by
    decide +kernel
  have ghost : (describedServer.cache.tag describedProject
      (Definition.directoryOf (Path.ofText "/w/x.marko")) "ghost").1 = none := by
    decide +kernel
  have onGhost : describedServer.PointsAt "file:///w/x.marko" ⟨0, 3⟩ (Path.ofText "/w/x.marko")
      ⟨"ghost", .tag⟩ :=
    described_page_points (by decide) (by decide +kernel : _ = some 3) (by decide +kernel)
  have onCard : describedServer.PointsAt "file:///w/x.marko" ⟨1, 2⟩ (Path.ofText "/w/x.marko")
      ⟨"card", .tag⟩ :=
    described_page_points (by decide) (by decide +kernel : _ = some 11) (by decide +kernel)
  have nowhere : ∀ path scope,
      ¬ describedServer.PointsAt "file:///w/x.marko" ⟨2, 0⟩ path scope := by
    rintro path scope ⟨url, document, offset, parsed, -, stored, line, -⟩
    have page : Url.parse? "file:///w/x.marko" = some (describedUrl "x.marko") := by decide +kernel
    cases parsed.symm.trans page
    have opened : describedServer.documents.get? (describedUrl "x.marko") =
        some ⟨describedPage, some 1, some "marko"⟩ := by decide +kernel
    cases stored.symm.trans opened
    exact absurd line (by decide)
  refine ⟨?_, ?_, ?_⟩
  · apply ((definition_fails_only_unresolved _ _ _ _).1 _).mpr
    refine ⟨_, _, onGhost, rfl, ?_, rfl, rfl⟩
    intro known found
    cases ghost.symm.trans found
  · obtain ⟨implementation, descriptor, implements, describes, answered⟩ :=
      ((definition_fails_only_unresolved describedServer describedProject "file:///w/x.marko"
        ⟨1, 2⟩).2.2.1 _ _ onCard).1 rfl _ _ card (.template rfl)
    have first := (implements ⟨describedUrl "card.marko", Target.startRange⟩).mpr
      ⟨by decide +kernel, by decide +kernel, rfl⟩
    have second := (describes ⟨describedUrl "marko.json", Target.startRange⟩).mpr
      ⟨_, rfl, by decide +kernel, by decide +kernel, by decide +kernel, rfl⟩
    rw [answered, first, second]
    rfl
  · exact (definition_fails_only_unresolved _ _ _ _).2.1 nowhere

end Server

end TemplateServer
