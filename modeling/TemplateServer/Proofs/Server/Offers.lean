import TemplateServer.Proofs.Server.Independence
import TemplateServer.Proofs.Text.ByteOrder
import TemplateServer.Protocol.Reply

/-!
The names that are offered for completion. A project keeps its tags in order and
each under its own name, however it was loaded, and so the names that are offered
are those that the project can say something about. Nothing counts but the project
of the document: neither its text nor the place of the cursor is looked at.
-/

namespace TemplateServer

open Text (bytes)

namespace Taglib

/-- Tags in order of name, each under its own. -/
structure Lookup.Ordered (lookup : Lookup) : Prop where
  sorted : Dictionary.Sorted lookup.tags
  named : ∀ entry ∈ lookup.tags, entry.2.name = entry.1

/-- Wherever definitions come from, they are filed by their names. -/
theorem of_definitions_ordered (root : Path) (definitions : List TagDefinition)
    (version : Option Nat) : (Lookup.ofDefinitions root definitions version).Ordered := by
  refine ⟨Dictionary.sorted_of_list _, ?_⟩
  intro entry member
  obtain ⟨definition, -, rfl⟩ := List.mem_map.mp (Dictionary.mem_of_mem_of_list member)
  rfl

namespace Lookup

variable {lookup : Lookup}

/-- The offered names are the keys, without the one that stands for all tags. -/
theorem offered_names (ordered : lookup.Ordered) :
    lookup.sortedInfos.map (·.name) =
      (Dictionary.keys lookup.tags).filter fun name => name != globalTag := by
  have named : ∀ entry ∈ lookup.tags,
      (entry.2.name != globalTag) = (entry.1 != globalTag) := by
    intro entry member
    rw [ordered.named entry member]
  have kept : lookup.sortedTags =
      (lookup.tags.filter fun entry => entry.1 != globalTag).map (·.2) := by
    rw [sortedTags, List.filter_map, ← List.filter_congr named]
    rfl
  rw [sortedInfos, List.map_map, kept, List.map_map, Dictionary.keys, List.filter_map]
  apply List.map_congr_left
  intro entry member
  exact ordered.named entry (List.mem_filter.mp member).1

theorem offered_sorted (ordered : lookup.Ordered) :
    (lookup.sortedInfos.map (·.name)).Pairwise fun first second => bytes first < bytes second := by
  rw [offered_names ordered]
  apply List.Pairwise.filter
  exact ordered.sorted.imp fun less => (Text.lt_iff_bytes_lt _ _).mp less

theorem offered_iff (ordered : lookup.Ordered) (name : String) :
    name ∈ lookup.sortedInfos.map (·.name) ↔
      name ≠ globalTag ∧ (lookup.tag? name).isSome = true := by
  rw [offered_names ordered, List.mem_filter, tag?, Option.isSome_map,
    Dictionary.get_is_some_iff, bne_iff_ne, and_comm]

end Lookup

namespace Cache

variable (cache : Cache) (files : FileSystem) (directory : Path)

/-- A project that has been looked up is there when it is looked up again. -/
theorem lookup_again :
    (cache.lookup files directory).2.lookup files directory = cache.lookup files directory := by
  cases found : cache.find? (projectRoot files directory) with
  | some project => rw [lookup_of_found found, lookup_of_found found]
  | none =>
      rw [lookup_of_missing found]
      apply lookup_of_found
      -- It was added at the end, and nothing in front of it has its root.
      rw [find?, Option.map_eq_none_iff] at found
      rw [find?, List.find?_append, found, Option.none_or, List.find?_singleton, Path.same,
        beq_self_eq_true]
      rfl

theorem lookup_ordered (held : ∀ entry ∈ cache.lookups, entry.2.Ordered) :
    (cache.lookup files directory).1.Ordered := by
  cases found : cache.find? (projectRoot files directory) with
  | some project =>
      rw [lookup_of_found found]
      obtain ⟨entry, first, rfl⟩ := Option.map_eq_some_iff.mp found
      exact held entry (List.mem_of_find?_eq_some first)
  | none =>
      rw [lookup_of_missing found]
      exact of_definitions_ordered _ _ _

theorem lookup_same_root {other : Path}
    (same : projectRoot files other = projectRoot files directory) :
    cache.lookup files other = cache.lookup files directory := by
  rw [lookup, lookup, same]

end Cache

end Taglib

namespace Protocol

def placeParams (uri : String) (position : Text.Position) : Json :=
  .object [("position", positionJson position), ("textDocument", .object [("uri", .string uri)])]

/-- A completion request is read with any place that a client can write, and the
place is left behind. -/
theorem completion_request_read {uri : String} (strict : Url.isStrict uri = true)
    {position : Text.Position} (line : position.line < Text.coordinateLimit)
    (column : position.column < Text.coordinateLimit) :
    completionRequest? (placeParams uri position) = some (.completion uri) := by
  have lineFits : (position.line : Int) ≤ 4294967295 := by
    rw [Text.coordinateLimit] at line
    omega
  have columnFits : (position.column : Int) ≤ 4294967295 := by
    rw [Text.coordinateLimit] at column
    omega
  simp (disch := decide +kernel) [completionRequest?, placeParams, positionJson, Json.natural,
    Shape.completionParams, Shape.positionParams, Shape.document, Shape.position, Shape.whole,
    Shape.natural32, Shape.workDone, Shape.partialResult, Shape.required, Shape.optional,
    Shape.fit?, Shape.fitMembers?, Shape.given?, Shape.mayHold, Shape.mayLack, Shape.mayBeNull,
    Dictionary.get?, Dictionary.ofList, Dictionary.insertAll, Dictionary.insert_nil,
    Dictionary.insert_before, strict, lineFits, columnFits, textAt?, at?, Json.member?, Json.text?]

end Protocol

namespace Session

theorem held_ordered (calls : Calls) :
    ∀ entry ∈ (after calls).server.cache.lookups, entry.2.Ordered := by
  intro entry member
  obtain ⟨made, -, loaded⟩ := (coherent_after calls).loaded entry member
  rw [loaded]
  exact Taglib.of_definitions_ordered _ _ _

theorem completion_request {session : Session} (running : session.phase = .running)
    (files : FileSystem) {uri : String} (strict : Url.isStrict uri = true)
    {position : Text.Position} (line : position.line < Text.coordinateLimit)
    (column : position.column < Text.coordinateLimit) :
    session.request files "textDocument/completion" (some (Protocol.placeParams uri position)) =
      session.answer files (.completion uri) := by
  have allowed : session.refusal? "textDocument/completion" = none := by
    rw [refusal?, running]
    rfl
  simp only [request, Protocol.requestReader?, allowed, Option.bind_some,
    Protocol.completion_request_read strict line column]

/-- After any calls a completion request for a document in a directory offers, in the
order of their bytes, just the names that the project of the directory knows, apart
from the one that stands for all tags. Any session with the same projects gives the
same answer to a request for any place of any document of that project. -/
theorem completion_offers_known_tags (calls : Calls) (files : FileSystem) (uri : String)
    (directory : Path) (inside : (Server.pathOfUri? uri).bind Path.parent? = some directory) :
    ∃ items, ((after calls).server.completion files uri).2 = some items ∧
      (items.map (·.label)).Pairwise (fun first second => bytes first < bytes second) ∧
      (∀ name, name ∈ items.map (·.label) ↔
        name ≠ "*" ∧ ((after calls).server.cache.tag files directory name).1.isSome = true) ∧
      (∀ name, (((after calls).server.completion files uri).1.cache.tag files directory name).1 =
        ((after calls).server.cache.tag files directory name).1) ∧
      ∀ (session : Session) (otherUri : String) (otherDirectory : Path)
        (position : Text.Position), session.phase = .running →
        session.server.cache = (after calls).server.cache → Url.isStrict otherUri = true →
        (Server.pathOfUri? otherUri).bind Path.parent? = some otherDirectory →
        Taglib.projectRoot files otherDirectory = Taglib.projectRoot files directory →
        position.line < 0x100000000 → position.column < 0x100000000 →
        (session.request files "textDocument/completion"
          (some (Protocol.placeParams otherUri position))).reply =
            some (.ok (.completions items)) := by
  have ordered :=
    Taglib.Cache.lookup_ordered (after calls).server.cache files directory (held_ordered calls)
  have asked : (after calls).server.completion files uri =
      (((after calls).server.loadProject files directory).2,
        some (completionList
          ((after calls).server.cache.lookup files directory).1.sortedInfos)) := by
    rw [Server.completion, inside]
    rfl
  have labels : ∀ infos : List Taglib.TagInfo,
      (completionList infos).map (·.label) = infos.map (·.name) := by
    intro infos
    rw [completionList, List.map_map]
    rfl
  rw [asked]
  refine ⟨_, rfl, ?_, ?_, ?_, ?_⟩
  · rw [labels]
    exact Taglib.Lookup.offered_sorted ordered
  · intro name
    rw [labels]
    exact Taglib.Lookup.offered_iff ordered name
  · intro name
    exact congrArg (fun found => found.1.tag? name)
      (Taglib.Cache.lookup_again (after calls).server.cache files directory)
  · intro session otherUri otherDirectory position running same strict within root line column
    rw [completion_request running files strict line column, (completion_reply session within).1,
      same, Taglib.Cache.lookup_same_root _ files directory root]

def starredFiles : FileSystem :=
  { entries :=
      [(["w"], .directory), (["w", "package.json"], .file []), (["w", "components"], .directory),
        (["w", "components", "*.marko"], .file []), (["w", "components", "card.marko"], .file []),
        (["w", "components", "Zed.marko"], .file [])]
    workingDirectory := ⟨true, []⟩
    configDirectory := none }

/-- Capitals come first. The name of all tags is known and not offered, and a place
in another directory of the project makes no difference. -/
theorem completion_offers_known_tags_starred :
    ((Server.pathOfUri? "file:///w/x.marko").bind Path.parent? = some (Path.ofText "/w")) ∧
      ∃ items, ((after []).server.completion starredFiles "file:///w/x.marko").2 = some items ∧
        items.map (·.label) = ["Zed", "card"] ∧
        ((after []).server.cache.tag starredFiles (Path.ofText "/w") "*").1.isSome = true ∧
        ((after []).server.cache.tag starredFiles (Path.ofText "/w") "card").1.isSome = true ∧
        (Session.request ⟨.running, Server.initial⟩ starredFiles "textDocument/completion"
          (some (Protocol.placeParams "file:///w/pages/y.marko" ⟨7, 3⟩))).reply =
            some (.ok (.completions items)) := by
  have inside : (Server.pathOfUri? "file:///w/x.marko").bind Path.parent? =
      some (Path.ofText "/w") := by decide +kernel
  have labels : ((after []).server.completion starredFiles "file:///w/x.marko").2.map
      (fun items => items.map (·.label)) = some ["Zed", "card"] := by decide +kernel
  have starred : ((after []).server.cache.tag starredFiles (Path.ofText "/w") "*").1.isSome =
      true := by decide +kernel
  obtain ⟨items, offered, -, known, -, alike⟩ :=
    completion_offers_known_tags [] starredFiles "file:///w/x.marko" (Path.ofText "/w") inside
  rw [offered, Option.map_some, Option.some.injEq] at labels
  have card := ((known "card").mp (by rw [labels]; decide)).2
  refine ⟨inside, items, offered, labels, starred, card, ?_⟩
  exact alike ⟨.running, Server.initial⟩ "file:///w/pages/y.marko" (Path.ofText "/w/pages") ⟨7, 3⟩
    rfl rfl (by decide +kernel) (by decide +kernel) (by decide +kernel) (by decide) (by decide)

end Session

end TemplateServer
