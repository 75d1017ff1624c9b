import Mathlib.Data.Finset.Card
import TemplateServer.Proofs.FileSystem.Location
import TemplateServer.Taglib.Cache

/-!
A cache of projects shows nothing of itself. Files change as they like between
the steps of a history, and every answer is the one that loading the project
would have given: with the options of now, on the files of the first lookup of
its root since the cache was last made invalid, and by the path that the root
had in that lookup. Roots are told apart by their components, so a later lookup
may spell its root in another way, and that is all it can tell a cache by.
-/

namespace TemplateServer.Taglib.Cache

open TemplateServer.Path (size_eq_sum size_le_child)

inductive Step where
  | lookup (directory : Path)
  | preload (directory : Path) (breaksOff : Bool)
  | tag (directory : Path) (name : String)
  | attribute (directory : Path) (tag name : String)
  | tags (directory : Path)
  | setOptions (options : DiscoveryOptions)
  | clear

inductive Answer where
  | project (found : Lookup)
  | implementation (found : Option Implementation)
  | declaration (found : Option (Option Path))
  | tags (infos : List TagInfo)
  | done
  deriving DecidableEq

def take (cache : Cache) (files : FileSystem) : Step → Answer × Cache
  | .lookup directory =>
      let (found, next) := cache.lookup files directory
      (.project found, next)
  | .preload directory breaksOff =>
      let (found, next) := cache.preload files directory breaksOff
      (.project found, next)
  | .tag directory name =>
      let (found, next) := cache.tag files directory name
      (.implementation found, next)
  | .attribute directory tag name =>
      let (found, next) := cache.tagAttribute files directory tag name
      (.declaration found, next)
  | .tags directory =>
      let (infos, next) := cache.sortedInfos files directory
      (.tags infos, next)
  | .setOptions options => (.done, cache.setOptions options)
  | .clear => (.done, cache.clear)

namespace Step

def directory? : Step → Option Path
  | .lookup directory => some directory
  | .preload directory _ => some directory
  | .tag directory _ => some directory
  | .attribute directory _ _ => some directory
  | .tags directory => some directory
  | .setOptions _ => none
  | .clear => none

def answer (step : Step) (project : Lookup) : Answer :=
  match step with
  | .lookup _ => .project project
  | .preload _ _ => .project project
  | .tag _ name => .implementation (project.tag? name)
  | .attribute _ owner name => .declaration (project.attribute? owner name)
  | .tags _ => .tags project.sortedInfos
  | .setOptions _ => .done
  | .clear => .done

def invalidates (current : DiscoveryOptions) : Step → Bool
  | .setOptions options => options ≠ current
  | .clear => true
  | _ => false

end Step

/-- The steps that a cache has taken, the latest one first, each with the files as
they were at that moment. -/
abbrev History := List (FileSystem × Step)

def after (start : DiscoveryOptions) : History → Cache
  | [] => empty start
  | (files, step) :: earlier => ((after start earlier).take files step).2

def optionsAfter (start : DiscoveryOptions) : History → DiscoveryOptions
  | [] => start
  | (_, .setOptions options) :: _ => options
  | _ :: earlier => optionsAfter start earlier

def sinceInvalidation (start : DiscoveryOptions) : History → History
  | [] => []
  | (files, step) :: earlier =>
      if step.invalidates (optionsAfter start earlier) then []
      else (files, step) :: sinceInvalidation start earlier

def rootsOf (history : History) : List (FileSystem × Path) :=
  (history.filterMap fun entry =>
    entry.2.directory?.map fun directory => (entry.1, projectRoot entry.1 directory)).reverse

def asked (start : DiscoveryOptions) (history : History) : List (FileSystem × Path) :=
  rootsOf (sinceInvalidation start history)

/-- The first lookup of a root among those that were made before, or else the
present one. -/
def firstLookup (before : List (FileSystem × Path)) (files : FileSystem) (root : Path) :
    FileSystem × Path :=
  (before.find? fun entry => entry.2.same root).getD (files, root)

theorem same_iff (left right : Path) :
    left.same right = true ↔ left.components = right.components := by
  rw [Path.same, beq_iff_eq]

/-- A cache that holds each root it was asked for, as loaded at its first lookup,
and nothing else. -/
structure Reflects (options : DiscoveryOptions) (before : List (FileSystem × Path))
    (cache : Cache) : Prop where
  current : cache.options = options
  found : ∀ root, cache.find? root =
    (before.find? fun entry => entry.2.same root).map fun entry => load entry.1 options entry.2
  count : cache.size = (before.map fun entry => entry.2.components).toFinset.card

theorem reflects_empty (options : DiscoveryOptions) : Reflects options [] (empty options) :=
  ⟨rfl, fun _ => rfl, rfl⟩

section Lookup

variable {options : DiscoveryOptions} {before : List (FileSystem × Path)} {cache : Cache}

theorem lookup_of_found {files : FileSystem} {directory : Path} {project : Lookup}
    (found : cache.find? (projectRoot files directory) = some project) :
    cache.lookup files directory = (project, cache) := by
  simp only [lookup, found]

theorem lookup_of_missing {files : FileSystem} {directory : Path}
    (missing : cache.find? (projectRoot files directory) = none) :
    cache.lookup files directory =
      (load files cache.options (projectRoot files directory),
        { cache with
          lookups := cache.lookups ++ [(projectRoot files directory,
            load files cache.options (projectRoot files directory))] }) := by
  simp only [lookup, missing]

theorem lookup_answer (reflects : Reflects options before cache) (files : FileSystem)
    (directory : Path) :
    (cache.lookup files directory).1 =
      load (firstLookup before files (projectRoot files directory)).1 options
        (firstLookup before files (projectRoot files directory)).2 := by
  have kept := reflects.found (projectRoot files directory)
  cases first : before.find? fun entry => entry.2.same (projectRoot files directory) with
  | some entry =>
      rw [first, Option.map_some] at kept
      rw [lookup_of_found kept, firstLookup, first, Option.getD_some]
  | none =>
      rw [first, Option.map_none] at kept
      rw [lookup_of_missing kept, firstLookup, first, Option.getD_none, reflects.current]

/-- Another lookup of a root is the first one of no root. -/
theorem reflects_repeated (reflects : Reflects options before cache) (files : FileSystem)
    {root : Path} {entry : FileSystem × Path} (present : entry ∈ before)
    (same : entry.2.same root = true) : Reflects options (before ++ [(files, root)]) cache := by
  have components := (same_iff entry.2 root).mp same
  constructor
  · exact reflects.current
  · intro other
    rw [reflects.found other, List.find?_append]
    cases earlier : before.find? fun entry => entry.2.same other with
    | some entry => rfl
    | none =>
        have apart := List.find?_eq_none.mp earlier entry present
        rw [Path.same, components, ← Path.same] at apart
        simp [apart]
  · have inside : root.components ∈ (before.map fun entry => entry.2.components).toFinset := by
      rw [List.mem_toFinset, ← components]
      exact List.mem_map_of_mem present
    rw [reflects.count, List.map_append, List.map_singleton, List.toFinset_append,
      List.toFinset_cons, List.toFinset_nil, insert_empty_eq, Finset.union_singleton,
      Finset.insert_eq_of_mem inside]

theorem reflects_first (reflects : Reflects options before cache) (files : FileSystem)
    {root : Path} (absent : before.find? (fun entry => entry.2.same root) = none) :
    Reflects options (before ++ [(files, root)])
      { cache with lookups := cache.lookups ++ [(root, load files cache.options root)] } := by
  constructor
  · exact reflects.current
  · intro other
    have earlier := reflects.found other
    rw [find?] at earlier ⊢
    rw [List.find?_append, List.find?_append]
    cases found : before.find? fun entry => entry.2.same other with
    | some entry =>
        rw [found, Option.map_some, Option.map_eq_some_iff] at earlier
        obtain ⟨held, first, same⟩ := earlier
        rw [first, Option.some_or, Option.map_some, same]
        rfl
    | none =>
        -- nothing else answers to the root, so the new entry decides
        rw [found, Option.map_none, Option.map_eq_none_iff] at earlier
        rw [earlier, Option.none_or, Option.none_or, reflects.current]
        by_cases same : root.same other = true
        · simp [same]
        · simp [same]
  · have fresh : root.components ∉ (before.map fun entry => entry.2.components).toFinset := by
      rw [List.mem_toFinset, List.mem_map]
      rintro ⟨entry, member, same⟩
      exact List.find?_eq_none.mp absent entry member ((same_iff _ _).mpr same)
    rw [List.map_append, List.map_singleton, List.toFinset_append, List.toFinset_cons,
      List.toFinset_nil, insert_empty_eq, Finset.union_singleton,
      Finset.card_insert_of_notMem fresh, ← reflects.count, size, List.length_append, size]
    rfl

theorem reflects_lookup (reflects : Reflects options before cache) (files : FileSystem)
    (directory : Path) :
    Reflects options (before ++ [(files, projectRoot files directory)])
      (cache.lookup files directory).2 := by
  have kept := reflects.found (projectRoot files directory)
  cases first : before.find? fun entry => entry.2.same (projectRoot files directory) with
  | some entry =>
      have same : entry.2.same (projectRoot files directory) = true := by
        simpa using List.find?_some first
      rw [first, Option.map_some] at kept
      rw [lookup_of_found kept]
      exact reflects_repeated reflects files (List.mem_of_find?_eq_some first) same
  | none =>
      rw [first, Option.map_none] at kept
      rw [lookup_of_missing kept]
      exact reflects_first reflects files first

end Lookup

theorem preload_eq_lookup (cache : Cache) (files : FileSystem) (directory : Path)
    (breaksOff : Bool) :
    cache.preload files directory breaksOff = cache.lookup files directory := by
  cases breaksOff with
  | true => rfl
  | false =>
      change ((cache.lookup files directory).1,
        { cache with lookups := (cache.lookup files directory).2.lookups }) = _
      cases found : cache.find? (projectRoot files directory) with
      | some project => rw [lookup_of_found found]
      | none => rw [lookup_of_missing found]

/-- Every step that asks for something is a lookup. -/
theorem take_asking (cache : Cache) (files : FileSystem) {step : Step} {directory : Path}
    (asks : step.directory? = some directory) :
    cache.take files step =
      (step.answer (cache.lookup files directory).1, (cache.lookup files directory).2) := by
  cases step with
  | setOptions => cases asks
  | clear => cases asks
  | preload other breaksOff =>
      cases asks
      simp only [take, preload_eq_lookup, Step.answer]
  | _ =>
      cases asks
      rfl

theorem asked_cons_asking (start : DiscoveryOptions) (earlier : History) (files : FileSystem)
    {step : Step} {directory : Path} (asks : step.directory? = some directory) :
    asked start ((files, step) :: earlier) =
        asked start earlier ++ [(files, projectRoot files directory)] ∧
      optionsAfter start ((files, step) :: earlier) = optionsAfter start earlier := by
  cases step with
  | setOptions => cases asks
  | clear => cases asks
  | _ =>
      cases asks
      exact ⟨by simp [asked, sinceInvalidation, Step.invalidates, rootsOf, Step.directory?], rfl⟩

theorem reflects_after (start : DiscoveryOptions) (history : History) :
    Reflects (optionsAfter start history) (asked start history) (after start history) := by
  induction history with
  | nil => exact reflects_empty start
  | cons entry earlier induction =>
      obtain ⟨files, step⟩ := entry
      cases asks : step.directory? with
      | some directory =>
          obtain ⟨grown, options⟩ := asked_cons_asking start earlier files asks
          rw [grown, options, after, take_asking _ _ asks]
          exact reflects_lookup induction files directory
      | none =>
          cases step with
          | setOptions options =>
              rw [after, take, optionsAfter, setOptions, induction.current]
              -- the history forgets its lookups exactly where the cache does
              by_cases same : optionsAfter start earlier = options
              · rw [if_pos same, ← same]
                have kept : asked start ((files, .setOptions (optionsAfter start earlier)) ::
                    earlier) = asked start earlier := by
                  simp [asked, sinceInvalidation, Step.invalidates, rootsOf, Step.directory?]
                rw [kept]
                exact induction
              · have dropped : asked start ((files, .setOptions options) :: earlier) = [] := by
                  simp [asked, sinceInvalidation, Step.invalidates, rootsOf, Ne.symm same]
                rw [if_neg same, dropped]
                exact reflects_empty options
          | clear =>
              exact ⟨induction.current, fun _ => rfl, rfl⟩
          | _ => cases asks

theorem first_lookup_unchanged {before : List (FileSystem × Path)} {files : FileSystem}
    {root : Path} (unchanged : ∀ entry ∈ before, entry.1 = files)
    (spelled : ∀ entry ∈ before, entry.2.same root = true → entry.2 = root) :
    firstLookup before files root = (files, root) := by
  rw [firstLookup]
  cases first : before.find? fun entry => entry.2.same root with
  | none => rfl
  | some entry =>
      have member := List.mem_of_find?_eq_some first
      have same : entry.2.same root = true := by simpa using List.find?_some first
      exact Prod.ext (unchanged entry member) (spelled entry member same)

/-- Whatever a cache has been through, it answers what loading the root gives on
the files and by the path of its first lookup since the cache was made invalid.
Where no file has changed since then, that is what loading gives now, unless the
root was spelled in another way. Setting the options that are in force changes
nothing, a background lookup is a lookup, and each root counts once. -/
theorem answers_of_first_lookup (start : DiscoveryOptions) (history : History)
    (files : FileSystem) :
    (∀ step directory, step.directory? = some directory →
      ((after start history).take files step).1 =
        step.answer (load
          (firstLookup (asked start history) files (projectRoot files directory)).1
          (optionsAfter start history)
          (firstLookup (asked start history) files (projectRoot files directory)).2)) ∧
      (∀ step directory, step.directory? = some directory →
        (∀ entry ∈ asked start history, entry.1 = files) →
        (∀ entry ∈ asked start history, entry.2.same (projectRoot files directory) = true →
          entry.2 = projectRoot files directory) →
        ((after start history).take files step).1 =
          step.answer (load files (optionsAfter start history) (projectRoot files directory))) ∧
      ((after start history).take files (.setOptions (optionsAfter start history))).2 =
        after start history ∧
      (∀ directory breaksOff,
        (after start history).take files (.preload directory breaksOff) =
          (after start history).take files (.lookup directory)) ∧
      (after start history).size =
        ((asked start history).map fun entry => entry.2.components).toFinset.card := by
  have reflects := reflects_after start history
  have answered : ∀ step directory, step.directory? = some directory →
      ((after start history).take files step).1 =
        step.answer (load
          (firstLookup (asked start history) files (projectRoot files directory)).1
          (optionsAfter start history)
          (firstLookup (asked start history) files (projectRoot files directory)).2) := by
    intro step directory asks
    rw [take_asking _ _ asks, lookup_answer reflects]
  refine ⟨answered, ?_, ?_, ?_, reflects.count⟩
  · intro step directory asks unchanged spelled
    rw [answered step directory asks, first_lookup_unchanged unchanged spelled]
  · rw [take, setOptions, if_pos reflects.current]
  · intro directory breaksOff
    rw [take, take, preload_eq_lookup]

def sampleFiles : FileSystem :=
  { entries :=
      [(["w"], .directory), (["w", "app"], .directory), (["w", "app", "package.json"], .file []),
        (["w", "app", "components"], .directory),
        (["w", "app", "components", "card.marko"], .file [])]
    workingDirectory := ⟨true, [.name "w"]⟩
    configDirectory := none }

def sampleRoot : Path := ⟨true, [.name "w", .name "app"]⟩

/-- A tag that is gone is still answered from what was loaded. -/
theorem answers_of_first_lookup_deleted :
    ((after .default [(sampleFiles, .tags sampleRoot)]).take
        (sampleFiles.delete ["w", "app", "components"]) (.tag sampleRoot "card")).1 =
      .implementation
        (some ⟨some (Path.ofText "/w/app/components/card.marko"), none, none⟩) := by
  rw [(answers_of_first_lookup .default [(sampleFiles, .tags sampleRoot)]
    (sampleFiles.delete ["w", "app", "components"])).1 (.tag sampleRoot "card") sampleRoot rfl]
  decide +kernel

theorem resolve_long (files : FileSystem) {path : Path}
    (long : FileSystem.greatestPath < path.size) :
    files.resolve path = .error .nameTooLong := by
  have given : (!path.absolute && path.pieces.isEmpty) = false := by
    obtain ⟨absolute, pieces⟩ := path
    cases absolute with
    | true => rfl
    | false =>
        cases pieces with
        | nil => cases long
        | cons piece rest => rfl
  rw [FileSystem.resolve, given]
  simp only [if_pos long]
  rfl

/-- A root that is longer than any path may be has no tags. -/
theorem definitions_long (files : FileSystem) {options : DiscoveryOptions} {root : Path}
    (long : FileSystem.greatestPath < root.size)
    (relative : ∀ directory ∈ options.tagsDirs, (Path.ofText directory).absolute = false) :
    definitions files options root = [] := by
  have below : ∀ {name : String}, (Path.ofText name).absolute = false →
      files.resolve (root.child name) = .error .nameTooLong := by
    intro name relative
    exact resolve_long files (Nat.lt_of_lt_of_le long (size_le_child root relative))
  have package : packageMembers? files root = none := by
    rw [packageMembers?, FileSystem.readText, below (by decide)]
    rfl
  have library : rootLibrary? files root = none := by
    simp only [rootLibrary?, FileSystem.isFile, below (show (Path.ofText libraryFileName).absolute =
      false by decide), Bool.false_eq_true, if_false]
  have configured : ∀ directory ∈ options.tagsDirs,
      tagsOfDirectory files none (root.child directory) = [] := by
    intro directory member
    rw [tagsOfDirectory, FileSystem.list?, below (relative directory member)]
    rfl
  simp [definitions, installedLibraries, package, library, List.flatMap_eq_nil_iff.mpr configured]

def dottedRoot (count : Nat) : Path :=
  ⟨true, .name "w" :: List.replicate count (.name ".") ++ [.name "app"]⟩

theorem dotted_root_size (count : Nat) : (dottedRoot count).size = 2 * count + 6 := by
  have dot : (PathPiece.name ".").bytes.length = 1 := by decide
  have app : (PathPiece.name "app").bytes.length = 3 := by decide
  have w : (PathPiece.name "w").bytes.length = 1 := by decide
  simp only [size_eq_sum, dottedRoot, List.map_append, List.map_cons, List.map_replicate,
    List.map_nil, dot, app, w, List.sum_append, List.sum_cons, List.sum_replicate_nat,
    List.sum_nil, List.length_append, List.length_cons, List.length_replicate, List.length_nil,
    if_true]
  omega

theorem dotted_root_parent (count : Nat) :
    (dottedRoot count).parent? = some ⟨true, [.name "w"]⟩ := by
  have dot : Path.isIdle (.name ".") = true := by decide
  have named : Path.trimmed (.name "w" :: List.replicate count (.name ".") ++ [.name "app"]) =
      .name "w" :: List.replicate count (.name ".") ++ [.name "app"] := by
    rw [Path.trimmed, List.reverse_concat, List.dropWhile_cons, if_neg (by decide),
      ← List.reverse_concat, List.reverse_reverse]
  have idle : Path.trimmed (.name "w" :: List.replicate count (.name ".")) = [.name "w"] := by
    rw [Path.trimmed, List.reverse_cons, List.reverse_replicate,
      List.dropWhile_append_of_pos (by simp [dot]), List.dropWhile_cons, if_neg (by decide),
      List.reverse_singleton]
  rw [Path.parent?, dottedRoot, if_pos rfl, named]
  change some (Path.mk true (Path.trimmed (PathPiece.name "w" ::
    List.replicate count (.name ".") ++ [PathPiece.name "app"]).dropLast)) = _
  rw [List.dropLast_concat, idle]

theorem dotted_root_same (count : Nat) : (dottedRoot count).same sampleRoot = true := by
  have dot : Path.isIdle (.name ".") = true := by decide
  have app : Path.isIdle (.name "app") = false := by decide
  have w : Path.isIdle (.name "w") = false := by decide
  simp [same_iff, Path.components, dottedRoot, sampleRoot, dot, app, w]

theorem ancestors_of_parent {path parent : Path} (found : path.parent? = some parent) :
    path.ancestors = path :: parent.ancestors := by
  rw [Path.ancestors]
  split
  · rename_i missing
    rw [found] at missing
    cases missing
  · rename_i other same
    rw [found] at same
    cases same
    rfl

/-- No package file can be reached by a path that is too long, so such a path is
taken for a root of its own. -/
theorem dotted_root_project {count : Nat} (long : FileSystem.greatestPath < 2 * count + 6) :
    projectRoot sampleFiles (dottedRoot count) = dottedRoot count := by
  rw [← dotted_root_size] at long
  have here : sampleFiles.isFile ((dottedRoot count).child packageFileName) = false := by
    rw [FileSystem.isFile, resolve_long sampleFiles
      (Nat.lt_of_lt_of_le long (size_le_child _ (by decide)))]
  have above : (Path.ancestors ⟨true, [.name "w"]⟩).find?
      (fun candidate => sampleFiles.isFile (candidate.child packageFileName)) = none := by
    decide +kernel
  rw [projectRoot, ancestors_of_parent (dotted_root_parent count), List.find?_cons, here, above]
  rfl

/-- A root that was first looked up by a path that leads nowhere has no tags, by
whatever path it is looked up later, though no file has changed. -/
theorem answer_differs_from_fresh_load :
    ¬ ∀ start history files step directory, step.directory? = some directory →
      (∀ entry ∈ sinceInvalidation start history, entry.1 = files) →
      ((after start history).take files step).1 =
        step.answer (load files (optionsAfter start history) (projectRoot files directory)) := by
  intro fresh
  have long : FileSystem.greatestPath < 2 * 2100 + 6 := by decide
  have claimed := fresh .default [(sampleFiles, .lookup (dottedRoot 2100))] sampleFiles
    (.tag sampleRoot "card") sampleRoot rfl (by simp [sinceInvalidation, Step.invalidates])
  have loaded : (Step.tag sampleRoot "card").answer
      (load sampleFiles .default (projectRoot sampleFiles sampleRoot)) ≠
        .implementation none := by decide +kernel
  -- both paths have the same components, so the cache takes them for one root
  have first : firstLookup (asked .default [(sampleFiles, .lookup (dottedRoot 2100))]) sampleFiles
      (projectRoot sampleFiles sampleRoot) = (sampleFiles, dottedRoot 2100) := by
    have root : projectRoot sampleFiles sampleRoot = sampleRoot := by decide +kernel
    have roots : asked .default [(sampleFiles, .lookup (dottedRoot 2100))] =
        [(sampleFiles, dottedRoot 2100)] := by
      rw [(asked_cons_asking .default [] sampleFiles rfl).1, dotted_root_project long]
      rfl
    rw [firstLookup, roots, root, List.find?_cons, dotted_root_same]
    rfl
  have empty : definitions sampleFiles .default (dottedRoot 2100) = [] :=
    definitions_long sampleFiles (dotted_root_size 2100 ▸ long) (by decide)
  rw [take_asking _ _ rfl, lookup_answer (reflects_after _ _), first, load] at claimed
  simp only [optionsAfter, empty] at claimed
  exact loaded claimed.symm

end TemplateServer.Taglib.Cache
