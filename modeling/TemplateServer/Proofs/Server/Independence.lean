import TemplateServer.Proofs.Server.Queries
import TemplateServer.Proofs.Url.Address

/-!
Requests do not get in each other's way. Two runs on the same files, of which one
lacks some of the requests that only look something up, go through states that
differ in nothing but the projects in the cache, and what is asked in both is
answered alike. A project that was first looked up by another path is held under
that path, and this shows only where the length of paths cuts off what one of the
two paths would have led to.
-/

namespace TemplateServer

/-- The calls of a run without some of the requests that only look something up.
All calls see the same files. -/
inductive Thins (files : FileSystem) : Calls → Calls → Prop
  | nothing : Thins files [] []
  | kept {full thinned : Calls} (call : Call) : Thins files full thinned →
      Thins files ((files, call) :: full) ((files, call) :: thinned)
  | dropped {full thinned : Calls} {request : Protocol.Request} : request.IsQuery →
      Thins files full thinned → Thins files ((files, .request request) :: full) thinned

namespace Session

theorem after_thinned {files : FileSystem} {full thinned : Calls}
    (thins : Thins files full thinned) :
    ∃ lookups, after thinned = (after full).holding lookups := by
  induction thins with
  | nothing => exact ⟨[], rfl⟩
  | kept call thins induction =>
      obtain ⟨lookups, same⟩ := induction
      rw [after, after, same]
      exact take_holding _ files lookups call
  | dropped query thins induction =>
      obtain ⟨lookups, same⟩ := induction
      obtain ⟨others, held⟩ := query_holding _ files query
      exact ⟨lookups, by rw [same, after, take, held]; rfl⟩

section Independence

variable {files : FileSystem} {full thinned : Calls}

theorem thins_files (thins : Thins files full thinned) :
    (∀ made ∈ full, made.1 = files) ∧ ∀ made ∈ thinned, made.1 = files := by
  induction thins with
  | nothing => exact ⟨List.forall_mem_nil _, List.forall_mem_nil _⟩
  | kept call thins induction =>
      rw [List.forall_mem_cons, List.forall_mem_cons]
      exact ⟨⟨rfl, induction.1⟩, rfl, induction.2⟩
  | dropped query thins induction =>
      rw [List.forall_mem_cons]
      exact ⟨⟨rfl, induction.1⟩, induction.2⟩

/-- A project is held as it is loaded by the path that it is held under, and that
path has the components of its root. -/
theorem held_project {calls : Calls} (unchanged : ∀ made ∈ calls, made.1 = files)
    {directory : Path} (settled : directory.Settled) :
    ((after calls).server.cache.lookup files directory).1 =
        Taglib.load files (after calls).server.cache.options
          ((after calls).server.heldRoot files directory) ∧
      ((after calls).server.heldRoot files directory).Settled ∧
      ((after calls).server.heldRoot files directory).same
        (Taglib.projectRoot files directory) = true := by
  have coherent := coherent_after calls
  have keys := keys_settled_after calls
  generalize (after calls).server = server at coherent keys
  rw [Server.heldRoot]
  cases found : server.cache.find? (Taglib.projectRoot files directory) with
  | some project =>
      rw [Taglib.Cache.lookup_of_found found]
      obtain ⟨entry, first, rfl⟩ := Option.map_eq_some_iff.mp found
      have member := List.mem_of_find?_eq_some first
      obtain ⟨made, earlier, loaded⟩ := coherent.loaded entry member
      rw [unchanged made earlier] at loaded
      have root : entry.2.root = entry.1 := by
        rw [loaded]
        rfl
      rw [root]
      exact ⟨loaded, keys entry member, by simpa using List.find?_some first⟩
  | none =>
      rw [Taglib.Cache.lookup_of_missing found]
      exact ⟨rfl, Taglib.project_root_settled files settled, beq_self_eq_true _⟩

theorem tags_seen_alike (thins : Thins files full thinned) {directory : Path}
    (settled : directory.Settled)
    (alike : Taglib.CutAlike files (after full).server.cache.options
      ((after full).server.heldRoot files directory)
      ((after thinned).server.heldRoot files directory)) :
    (after full).server.tagsSeen files directory =
      (after thinned).server.tagsSeen files directory := by
  obtain ⟨unchanged, also⟩ := thins_files thins
  obtain ⟨loaded, first, same⟩ := held_project unchanged settled
  obtain ⟨alsoLoaded, second, alsoSame⟩ := held_project also settled
  have spelled : ((after full).server.heldRoot files directory).same
      ((after thinned).server.heldRoot files directory) = true := by
    rw [Taglib.Cache.same_iff] at same alsoSame ⊢
    rw [same, alsoSame]
  have options : (after thinned).server.cache.options = (after full).server.cache.options := by
    obtain ⟨lookups, held⟩ := after_thinned thins
    rw [held]
    rfl
  rw [Server.tagsSeen, Server.tagsSeen, loaded, alsoLoaded, options]
  exact Taglib.load_sight (Path.plain_of_settled first second spelled) alike

/-- Leaving out requests that only look something up changes nothing of what a
session keeps, apart from the projects in its cache, and such a request changes
nothing else. The next request is answered as in the run that has them all, unless
the two runs hold its project under paths of which only one is too long for
something that is looked at. As the beginning of a run is a run, this is so for
each request that remains in one. -/
theorem requests_independent (thins : Thins files full thinned) :
    (∃ lookups, after thinned = (after full).holding lookups) ∧
      (∀ request, (∀ directory, request.directory? = some directory →
          Taglib.CutAlike files (after full).server.cache.options
            ((after full).server.heldRoot files directory)
            ((after thinned).server.heldRoot files directory)) →
        ((after full).answer files request).reply =
            ((after thinned).answer files request).reply ∧
          ((after full).answer files request).messages =
            ((after thinned).answer files request).messages) ∧
      ∀ request, request.IsQuery →
        ∃ lookups, ((after full).answer files request).session = (after full).holding lookups := by
  refine ⟨after_thinned thins, ?_, fun _ query => query_holding _ files query⟩
  intro request alike
  have seen : ∀ directory, request.directory? = some directory →
      (after full).server.tagsSeen files directory =
        (after thinned).server.tagsSeen files directory := by
    intro directory asks
    exact tags_seen_alike thins (Protocol.Request.directory_settled asks) (alike directory asks)
  obtain ⟨lookups, held⟩ := after_thinned thins
  rw [held] at seen ⊢
  exact answer_alike (after full) files lookups request seen

end Independence

open Taglib (Cache)
open Taglib.Cache (sampleRoot dottedRoot)

/-- The document is opened, and the tags are asked for by a path with two slashes. -/
def slashedCalls : Calls :=
  [(Cache.sampleFiles, .request (.completion "file:///w//app/x.marko")),
    (Cache.sampleFiles, .notification (.didOpen "file:///w/app/x.marko" "<card/>" 1 "marko"))]

def openingCalls : Calls :=
  [(Cache.sampleFiles, .notification (.didOpen "file:///w/app/x.marko" "<card/>" 1 "marko"))]

def slashedRoot : Path := ⟨true, [.name "w", .name "", .name "app"]⟩

theorem slashed_root_alike : Taglib.CutAlike Cache.sampleFiles .default slashedRoot sampleRoot := by
  have directories : Taglib.DiscoveryOptions.default.tagsDirs = ["components"] := by decide
  have listed : (Cache.sampleFiles.list? (slashedRoot.child "components")).getD [] =
      ["card.marko"] := by decide +kernel
  intro way looks
  cases looks with
  | package => decide
  | library => decide
  | installed searched needed =>
      have none : Taglib.dependencies Cache.sampleFiles slashedRoot = [] := by decide +kernel
      rw [none] at needed
      cases needed
  | directory given =>
      rw [directories, List.mem_singleton] at given
      rw [given]
      decide
  | entry given inside =>
      rw [directories, List.mem_singleton] at given
      rw [given, listed, List.mem_singleton] at inside
      rw [given, inside]
      decide
  | inside given inside isDirectory =>
      rw [directories, List.mem_singleton] at given
      rw [given, listed, List.mem_singleton] at inside
      rw [given, inside] at isDirectory
      exact absurd isDirectory (by decide +kernel)

/-- The two runs hold the project under different paths, and find the tag in the
same place. -/
theorem requests_independent_slashed :
    (after slashedCalls).server.heldRoot Cache.sampleFiles sampleRoot ≠
        (after openingCalls).server.heldRoot Cache.sampleFiles sampleRoot ∧
      ((after slashedCalls).answer Cache.sampleFiles
          (.definition "file:///w/app/x.marko" ⟨0, 2⟩)).reply =
        ((after openingCalls).answer Cache.sampleFiles
          (.definition "file:///w/app/x.marko" ⟨0, 2⟩)).reply ∧
      (match ((after openingCalls).answer Cache.sampleFiles
          (.definition "file:///w/app/x.marko" ⟨0, 2⟩)).reply with
        | some (.ok (.locations targets)) => targets.map fun target => target.url.text
        | _ => []) = ["file:///w/app/components/card.marko"] := by
  have slashed : (after slashedCalls).server.heldRoot Cache.sampleFiles sampleRoot =
      slashedRoot := by decide +kernel
  have opening : (after openingCalls).server.heldRoot Cache.sampleFiles sampleRoot =
      sampleRoot := by decide +kernel
  have options : (after slashedCalls).server.cache.options = .default := by decide +kernel
  have asks : Protocol.Request.directory? (.definition "file:///w/app/x.marko" ⟨0, 2⟩) =
      some sampleRoot := by decide +kernel
  have thins : Thins Cache.sampleFiles slashedCalls openingCalls :=
    .dropped trivial (.kept _ .nothing)
  refine ⟨by rw [slashed, opening]; decide, ((requests_independent thins).2.1 _ ?_).1, by
    decide +kernel⟩
  intro directory same
  rw [asks, Option.some.injEq] at same
  rw [← same, slashed, opening, options]
  exact slashed_root_alike

section Counterexample

def dottedName (count : Nat) : String :=
  String.ofList ((List.replicate count ['.', '%', '2', 'F']).flatten ++ ['a', 'p', 'p'])

def dottedUri (count : Nat) : String :=
  (Url.ofSegments ["w", dottedName count, "x.marko"]).text

theorem dotted_name_chars (count : Nat) : ∀ char ∈ (dottedName count).toList,
    char ∈ ['.', '%', '2', 'F', 'a', 'p', 'p'] := by
  intro char member
  rw [dottedName, String.toList_ofList, List.mem_append] at member
  rcases member with inside | last
  · obtain ⟨part, repeated, written⟩ := List.mem_flatten.mp inside
    rw [List.eq_of_mem_replicate repeated] at written
    exact List.mem_append_left ['a', 'p', 'p'] written
  · exact List.mem_append_right ['.', '%', '2', 'F'] last

theorem dotted_name_plain (count : Nat) : Url.PlainSegment (dottedName count) := by
  have plain : ∀ char ∈ ['.', '%', '2', 'F', 'a', 'p', 'p'], Url.PlainChar char :=
    (Url.all_plain_iff _).mp (by decide)
  have last : (dottedName count).toList.getLast? = some 'p' := by
    rw [dottedName, String.toList_ofList, List.getLast?_append]
    rfl
  have lower : (dottedName count).toLower.toList.getLast? = some 'p' := by
    change ((dottedName count).map Char.toLower).toList.getLast? = some 'p'
    rw [String.toList_map, List.getLast?_map, last]
    rfl
  have other : ∀ text : String, text.toList.getLast? ≠ some 'p' →
      dottedName count ≠ text ∧ (dottedName count).toLower ≠ text := by
    intro text ending
    constructor
    · intro same
      rw [same] at last
      exact ending last
    · intro same
      rw [same] at lower
      exact ending lower
  constructor
  · exact (other "" (by decide)).1
  · intro char member
    exact plain char (dotted_name_chars count char member)
  · simp [Url.isSingleDot, (other "." (by decide)).1, (other "%2e" (by decide)).2]
  · simp [Url.isDoubleDot, (other ".." (by decide)).2, (other "%2e." (by decide)).2,
      (other ".%2e" (by decide)).2, (other "%2e%2e" (by decide)).2]

theorem dotted_name_unescaped (count : Nat) :
    Url.unescapedBytes (Text.bytes (dottedName count)) =
      (List.replicate count [0x2E, 0x2F]).flatten ++ [0x61, 0x70, 0x70] := by
  rw [dottedName, Text.bytes_of_list]
  induction count with
  | zero => decide +kernel
  | succ count induction =>
      have dot : ['.', '%', '2', 'F'].flatMap String.utf8EncodeChar = [0x2E, 0x25, 0x32, 0x46] := by
        decide +kernel
      have slash : ∀ rest, Url.unescapedBytes (0x2E :: 0x25 :: 0x32 :: 0x46 :: rest) =
          0x2E :: 0x2F :: Url.unescapedBytes rest := by
        intro rest
        rfl
      rw [List.replicate_succ, List.flatten_cons, List.append_assoc, List.flatMap_append, dot,
        List.cons_append, List.cons_append, List.cons_append, List.cons_append, List.nil_append,
        slash, induction, List.replicate_succ]
      rfl

theorem dotted_pieces (count : Nat) (rest : List UInt8) :
    Text.pieces 0x2F ((List.replicate count [0x2E, 0x2F]).flatten ++ rest) =
      List.replicate count [0x2E] ++ Text.pieces 0x2F rest := by
  induction count with
  | zero => rfl
  | succ count induction =>
      have front : (0x2F : UInt8) ∉ [0x2E] := by decide
      rw [List.replicate_succ, List.flatten_cons, List.append_assoc]
      exact (pieces_of_front front _).trans (congrArg (List.cons _) induction)

def dottedBytes (count : Nat) : List UInt8 :=
  0x2F :: 0x77 :: 0x2F :: ((List.replicate count [0x2E, 0x2F]).flatten ++
    0x61 :: 0x70 :: 0x70 :: 0x2F :: Text.bytes "x.mar")

theorem dotted_path_of_bytes (count : Nat) :
    Path.ofBytes (dottedBytes count ++ [0x6B, 0x6F]) =
      ⟨true, .name "w" :: List.replicate count (.name ".") ++ [.name "app", .name "x.marko"]⟩ := by
  have front : (0x2F : UInt8) ∉ [0x77] := by decide
  have rest : (Text.pieces 0x2F (0x61 :: 0x70 :: 0x70 :: 0x2F :: Text.bytes "x.mar" ++
      [0x6B, 0x6F])).map PathPiece.ofBytes = [.name "app", .name "x.marko"] := by decide +kernel
  have first : PathPiece.ofBytes [0x77] = .name "w" := by decide +kernel
  have dot : PathPiece.ofBytes [0x2E] = .name "." := by decide +kernel
  have split := pieces_of_front front ((List.replicate count [0x2E, 0x2F]).flatten ++
    (0x61 :: 0x70 :: 0x70 :: 0x2F :: Text.bytes "x.mar" ++ [0x6B, 0x6F]))
  rw [List.singleton_append, dotted_pieces] at split
  have whole : dottedBytes count ++ [0x6B, 0x6F] = 0x2F :: 0x77 :: 0x2F ::
      ((List.replicate count [0x2E, 0x2F]).flatten ++
        (0x61 :: 0x70 :: 0x70 :: 0x2F :: Text.bytes "x.mar" ++ [0x6B, 0x6F])) := by
    simp [dottedBytes]
  rw [whole]
  change Path.mk true ((Text.pieces 0x2F _).map PathPiece.ofBytes) = _
  rw [split, List.map_cons, List.map_append, List.map_replicate, first, dot, rest]
  rfl

theorem dotted_uri_path (count : Nat) :
    Server.pathOfUri? (dottedUri count) = some ⟨true,
      .name "w" :: List.replicate count (.name ".") ++ [.name "app", .name "x.marko"]⟩ := by
  have plain : ∀ name ∈ ["w", dottedName count, "x.marko"], Url.PlainSegment name := by
    simp only [List.forall_mem_cons]
    exact ⟨by decide +kernel, dotted_name_plain count, by decide +kernel, List.forall_mem_nil _⟩
  have first : Url.unescapedBytes (Text.bytes "w") = [0x77] := by decide +kernel
  have last : Url.unescapedBytes (Text.bytes "x.marko") = Text.bytes "x.mar" ++ [0x6B, 0x6F] := by
    decide +kernel
  have bytes : ["w", dottedName count, "x.marko"].flatMap
      (fun name => 0x2F :: Url.unescapedBytes (Text.bytes name)) =
      dottedBytes count ++ [0x6B, 0x6F] := by
    simp [first, last, dotted_name_unescaped, dottedBytes]
  rw [Server.pathOfUri?, dottedUri, Url.parse_text plain (List.cons_ne_nil _ _), Option.bind_some,
    Url.file_path_of_segments bytes (by decide +kernel), dotted_path_of_bytes]

theorem dotted_uri_parent (count : Nat) :
    (Server.pathOfUri? (dottedUri count)).bind Path.parent? = some (dottedRoot count) := by
  have split : PathPiece.name "w" :: List.replicate count (.name ".") ++
      [.name "app", .name "x.marko"] =
      (dottedRoot count).pieces ++ [.name "x.marko"] := by simp [dottedRoot]
  have named : Path.trimmed (dottedRoot count).pieces = (dottedRoot count).pieces :=
    Path.trimmed_named (by decide) _
  rw [dotted_uri_path, Option.bind_some, Path.parent?, if_pos rfl, split,
    Path.trimmed_named (by decide)]
  split
  · rename_i nothing
    exact absurd nothing (by simp)
  · rename_i cut
    rw [← cut, List.dropLast_concat, named]
    rfl

theorem completion_reply (session : Session) {files : FileSystem} {uri : String}
    {directory : Path} (asks : (Server.pathOfUri? uri).bind Path.parent? = some directory) :
    (session.answer files (.completion uri)).reply = some (.ok (.completions
        (completionList (session.server.cache.lookup files directory).1.sortedInfos))) ∧
      (session.answer files (.completion uri)).session =
        session.withServer (session.server.loadProject files directory).2 := by
  simp only [answer, Server.completion, asks, Server.loadProject, and_self]

/-- A request by a path that is too long to lead anywhere leaves a project without
tags behind, and a later request by a short path is answered from it. -/
theorem dropped_request_changes_reply :
    ¬ ∀ files full thinned, Thins files full thinned → ∀ request,
      ((after full).answer files request).reply = ((after thinned).answer files request).reply := by
  intro unchanged
  have long : FileSystem.greatestPath < 2 * 2100 + 6 := by decide
  have same := unchanged Cache.sampleFiles
    [(Cache.sampleFiles, .request (.completion (dottedUri 2100)))] [] (.dropped trivial .nothing)
    (.completion "file:///w/app/x.marko")
  have asks : (Server.pathOfUri? "file:///w/app/x.marko").bind Path.parent? = some sampleRoot := by
    decide +kernel
  have root : Taglib.projectRoot Cache.sampleFiles sampleRoot = sampleRoot := by decide +kernel
  have tags : (Taglib.load Cache.sampleFiles .default sampleRoot).sortedInfos.length = 1 := by
    decide +kernel
  have held : (after [(Cache.sampleFiles, .request (.completion (dottedUri 2100)))]).server.cache =
      ⟨.default, [(dottedRoot 2100,
        Taglib.load Cache.sampleFiles .default (dottedRoot 2100))]⟩ := by
    rw [after, take, (completion_reply _ (dotted_uri_parent 2100)).2, withServer,
      Server.loadProject, Cache.lookup_of_missing rfl, Cache.dotted_root_project long]
    rfl
  have found : Cache.find? ⟨.default, [(dottedRoot 2100,
      Taglib.load Cache.sampleFiles .default (dottedRoot 2100))]⟩ sampleRoot =
        some (Taglib.load Cache.sampleFiles .default (dottedRoot 2100)) := by
    rw [Cache.find?, List.find?_cons, Cache.dotted_root_same]
    rfl
  have empty : Taglib.definitions Cache.sampleFiles .default (dottedRoot 2100) = [] :=
    Cache.definitions_long Cache.sampleFiles (Cache.dotted_root_size 2100 ▸ long) (by decide)
  rw [← root] at found
  rw [(completion_reply _ asks).1, (completion_reply _ asks).1, held,
    Cache.lookup_of_found found, Cache.lookup_of_missing rfl, root, Taglib.load, empty] at same
  have items := Reply.completions.inj (Except.ok.inj (Option.some.inj same))
  have lengths := congrArg List.length items
  rw [completionList, completionList, List.length_map, List.length_map] at lengths
  exact absurd (lengths.trans tags) (by decide)

end Counterexample

end Session

end TemplateServer
