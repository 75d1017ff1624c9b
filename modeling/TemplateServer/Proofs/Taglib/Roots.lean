import TemplateServer.Proofs.Taglib.Transparency

/-!
The root of a project as the key of a cache. The root of a directory is the nearest one
with a package file on the way up, or the directory itself if there is none, so all
directories between a root and one that belongs to it have that root, and a root is its
own root. A cache keeps one entry for each root, and directories share an entry exactly
if their roots have the same components.
-/

namespace TemplateServer.Path

theorem ancestors_of_top {path : Path} (top : path.parent? = none) : path.ancestors = [path] := by
  rw [ancestors]
  split
  · rfl
  · rename_i found
    rw [top] at found
    cases found

theorem head_ancestors (path : Path) : path.ancestors.head? = some path := by
  rw [ancestors]
  split
  · rfl
  · rfl

theorem self_mem_ancestors (path : Path) : path ∈ path.ancestors :=
  List.mem_of_head? (head_ancestors path)

/-- What stands above a path in the chain of its ancestors is the chain of that one. -/
theorem ancestors_suffix {path ancestor : Path} (above : ancestor ∈ path.ancestors) :
    ancestor.ancestors <:+ path.ancestors := by
  fun_induction ancestors path with
  | case1 path top =>
      rw [List.mem_singleton.mp above, ancestors_of_top top]
  | case2 path parent found induction =>
      rcases List.mem_cons.mp above with rfl | higher
      · rw [Taglib.Cache.ancestors_of_parent found]
      · exact (induction higher).trans (List.suffix_cons path parent.ancestors)

theorem ancestors_trans {path between ancestor : Path} (above : ancestor ∈ between.ancestors)
    (below : between ∈ path.ancestors) : ancestor ∈ path.ancestors :=
  (ancestors_suffix below).mem above

theorem ancestors_antisymm {path other : Path} (above : path ∈ other.ancestors)
    (below : other ∈ path.ancestors) : path = other := by
  have same : path.ancestors = other.ancestors :=
    (ancestors_suffix above).eq_of_length_le (ancestors_suffix below).length_le
  apply Option.some.inj
  rw [← head_ancestors path, ← head_ancestors other, same]

end TemplateServer.Path

namespace TemplateServer.Taglib

def holdsPackage (files : FileSystem) (directory : Path) : Bool :=
  files.isFile (directory.child packageFileName)

/-- The nearest directory with a package file, from a directory upwards: every other one
on the way up that has one is above it. -/
structure NearestPackage (files : FileSystem) (directory root : Path) : Prop where
  above : root ∈ directory.ancestors
  holds : holdsPackage files root = true
  nearest : ∀ other ∈ directory.ancestors, holdsPackage files other = true →
    other ∈ root.ancestors

section Nearest

variable {files : FileSystem} {directory root : Path}

theorem nearest_here (holds : holdsPackage files directory = true) :
    NearestPackage files directory directory :=
  ⟨directory.self_mem_ancestors, holds, fun _ above _ => above⟩

theorem nearest_above {parent : Path} (found : directory.parent? = some parent)
    (empty : holdsPackage files directory = false) (nearest : NearestPackage files parent root) :
    NearestPackage files directory root := by
  have chain := Cache.ancestors_of_parent found
  constructor
  · rw [chain]
    exact List.mem_cons_of_mem directory nearest.above
  · exact nearest.holds
  · intro other above holds
    rw [chain] at above
    rcases List.mem_cons.mp above with rfl | higher
    · rw [empty] at holds
      cases holds
    · exact nearest.nearest other higher holds

theorem nearest_of_found (found : directory.ancestors.find? (holdsPackage files) = some root) :
    NearestPackage files directory root := by
  fun_induction Path.ancestors directory with
  | case1 directory top =>
      obtain rfl := List.mem_singleton.mp (List.mem_of_find?_eq_some found)
      exact nearest_here (List.find?_some found)
  | case2 directory parent up induction =>
      cases holds : holdsPackage files directory with
      | true =>
          rw [List.find?_cons, holds] at found
          cases found
          exact nearest_here holds
      | false =>
          rw [List.find?_cons, holds] at found
          exact nearest_above up holds (induction found)

theorem nearest_unique {other : Path} (nearest : NearestPackage files directory root)
    (also : NearestPackage files directory other) : root = other :=
  Path.ancestors_antisymm (also.nearest root nearest.above nearest.holds)
    (nearest.nearest other also.above also.holds)

/-- On the way from a directory up to its nearest package file that file stays the nearest. -/
theorem nearest_between {between : Path} (nearest : NearestPackage files directory root)
    (below : between ∈ directory.ancestors) (above : root ∈ between.ancestors) :
    NearestPackage files between root :=
  ⟨above, nearest.holds, fun other higher holds =>
    nearest.nearest other (Path.ancestors_trans higher below) holds⟩

theorem project_root_of_nearest (nearest : NearestPackage files directory root) :
    projectRoot files directory = root := by
  change (directory.ancestors.find? (holdsPackage files)).getD directory = root
  cases found : directory.ancestors.find? (holdsPackage files) with
  | none => exact absurd nearest.holds (List.find?_eq_none.mp found root nearest.above)
  | some first => exact nearest_unique (nearest_of_found found) nearest

theorem project_root_nearest
    (package : ∃ above ∈ directory.ancestors, holdsPackage files above = true) :
    NearestPackage files directory (projectRoot files directory) := by
  change NearestPackage files directory
    ((directory.ancestors.find? (holdsPackage files)).getD directory)
  cases found : directory.ancestors.find? (holdsPackage files) with
  | none =>
      obtain ⟨above, member, holds⟩ := package
      exact absurd holds (List.find?_eq_none.mp found above member)
  | some first => exact nearest_of_found found

theorem project_root_without_package
    (empty : ∀ above ∈ directory.ancestors, holdsPackage files above = false) :
    projectRoot files directory = directory := by
  have missing : directory.ancestors.find? (holdsPackage files) = none := by
    rw [List.find?_eq_none]
    intro above member
    rw [empty above member]
    exact Bool.false_ne_true
  change (directory.ancestors.find? (holdsPackage files)).getD directory = directory
  rw [missing, Option.getD_none]

end Nearest

/-- A root is one of the directories on the way up, and its own root. -/
theorem project_root_settles (files : FileSystem) (directory : Path) :
    projectRoot files directory ∈ directory.ancestors ∧
      projectRoot files (projectRoot files directory) = projectRoot files directory := by
  by_cases package : ∃ above ∈ directory.ancestors, holdsPackage files above = true
  · have nearest := project_root_nearest package
    exact ⟨nearest.above, project_root_of_nearest (nearest_here nearest.holds)⟩
  · have empty : ∀ above ∈ directory.ancestors, holdsPackage files above = false := by
      intro above member
      exact Bool.eq_false_iff.mpr fun holds => package ⟨above, member, holds⟩
    have root := project_root_without_package empty
    rw [root]
    exact ⟨directory.self_mem_ancestors, root⟩

namespace Cache

/-- The entry that a directory is answered from. No other entry has a key with the
components of its root, and another lookup of it leaves the cache as it is. -/
structure HeldAt (cache : Cache) (files : FileSystem) (directory : Path) (index : Nat) :
    Prop where
  held : ∃ key project, cache.lookups[index]? = some (key, project) ∧
    key.same (projectRoot files directory) = true ∧
    cache.lookup files directory = (project, cache)
  only : ∀ other key project, cache.lookups[other]? = some (key, project) →
    key.same (projectRoot files directory) = true → other = index

def LookedUp (start : DiscoveryOptions) (history : History) (root : Path) : Prop :=
  ∃ entry ∈ asked start history, entry.2.same root = true

theorem looked_up_of_asking (start : DiscoveryOptions) (earlier : History) (files : FileSystem)
    {step : Step} {directory : Path} (asks : step.directory? = some directory) :
    LookedUp start ((files, step) :: earlier) (projectRoot files directory) := by
  refine ⟨(files, projectRoot files directory), ?_, (same_iff _ _).mpr rfl⟩
  rw [(asked_cons_asking start earlier files asks).1]
  exact List.mem_append_right _ (List.mem_singleton_self _)

section Entries

variable {options : DiscoveryOptions} {before : List (FileSystem × Path)} {cache : Cache}
  {files others : FileSystem} {directory other : Path}

theorem entry_of_looked_up (reflects : Reflects options before cache) {root : Path}
    (looked : ∃ entry ∈ before, entry.2.same root = true) :
    ∃ entry, cache.lookups.find? (fun entry => entry.1.same root) = some entry := by
  have first : (before.find? fun entry => entry.2.same root).isSome = true :=
    List.find?_isSome.mpr looked
  have found := congrArg Option.isSome (reflects.found root)
  rw [Option.isSome_map, first, find?, Option.isSome_map] at found
  exact Option.isSome_iff_exists.mp found

/-- As a cache has no more entries than there are roots to be found in it, no two of them
have one key. -/
theorem keys_apart (reflects : Reflects options before cache) :
    (cache.lookups.map fun entry => entry.1.components).Nodup := by
  let keys := cache.lookups.map fun entry => entry.1.components
  have covered : (before.map fun entry => entry.2.components).toFinset ⊆ keys.toFinset := by
    intro components member
    obtain ⟨earlier, present, rfl⟩ := List.mem_map.mp (List.mem_toFinset.mp member)
    obtain ⟨entry, found⟩ :=
      entry_of_looked_up reflects ⟨earlier, present, (same_iff _ _).mpr rfl⟩
    have same : entry.1.same earlier.2 = true := by
      simpa using List.find?_some found
    apply List.mem_toFinset.mpr
    exact List.mem_map.mpr ⟨entry, List.mem_of_find?_eq_some found, (same_iff _ _).mp same⟩
  have fewer : keys.length ≤ keys.toFinset.card := by
    calc keys.length = cache.size := List.length_map _
      _ = (before.map fun entry => entry.2.components).toFinset.card := reflects.count
      _ ≤ keys.toFinset.card := Finset.card_le_card covered
  exact Multiset.toFinset_card_eq_card_iff_nodup.mp
    (Nat.le_antisymm (List.toFinset_card_le keys) fewer)

theorem place_of_key (reflects : Reflects options before cache) {index place : Nat}
    {entry other : Path × Lookup} (stands : cache.lookups[index]? = some entry)
    (present : cache.lookups[place]? = some other)
    (same : other.1.components = entry.1.components) : place = index := by
  have inside : place < (cache.lookups.map fun entry => entry.1.components).length := by
    rw [List.length_map]
    exact (List.getElem?_eq_some_iff.mp present).1
  apply (List.getElem?_inj inside (keys_apart reflects)).mp
  rw [List.getElem?_map, List.getElem?_map, present, stands, Option.map_some, Option.map_some, same]

theorem held_of_looked_up (reflects : Reflects options before cache)
    (looked : ∃ entry ∈ before, entry.2.same (projectRoot files directory) = true) :
    ∃ index, HeldAt cache files directory index := by
  obtain ⟨⟨key, project⟩, found⟩ := entry_of_looked_up reflects looked
  have same : key.same (projectRoot files directory) = true := by
    simpa using List.find?_some found
  have answered : cache.lookup files directory = (project, cache) := by
    apply lookup_of_found
    rw [find?, found, Option.map_some]
  obtain ⟨index, stands⟩ := List.mem_iff_getElem?.mp (List.mem_of_find?_eq_some found)
  refine ⟨index, ⟨key, project, stands, same, answered⟩, ?_⟩
  intro place another loaded present also
  rw [same_iff] at same also
  exact place_of_key reflects stands present (also.trans same.symm)

theorem held_same_iff {index place : Nat} (held : HeldAt cache files directory index)
    (also : HeldAt cache others other place) :
    index = place ↔ (projectRoot files directory).same (projectRoot others other) = true := by
  obtain ⟨key, project, stands, same, -⟩ := held.held
  obtain ⟨another, loaded, present, alike, -⟩ := also.held
  rw [same_iff] at same alike ⊢
  constructor
  · rintro rfl
    rw [stands] at present
    cases present
    exact same.symm.trans alike
  · intro roots
    have key := (same_iff another (projectRoot files directory)).mpr (alike.trans roots.symm)
    exact (held.only place another loaded present key).symm

end Entries

end Cache

/-- Roots are canonical keys. The root of a directory is the nearest one upwards with a
package file, and so it is of all directories between the two; without such a file it is
the directory itself. A root is its own root. Whatever a cache has been through, each
root that was looked up since it was last made invalid has one entry, and two
directories share theirs exactly if their roots have the same components. -/
theorem project_roots_canonical (files : FileSystem) (directory : Path) :
    projectRoot files directory ∈ directory.ancestors ∧
      ((∃ above ∈ directory.ancestors, holdsPackage files above = true) →
        (∀ root, NearestPackage files directory root ↔ projectRoot files directory = root) ∧
        ∀ between ∈ directory.ancestors, projectRoot files directory ∈ between.ancestors →
          projectRoot files between = projectRoot files directory) ∧
      ((∀ above ∈ directory.ancestors, holdsPackage files above = false) →
        projectRoot files directory = directory) ∧
      projectRoot files (projectRoot files directory) = projectRoot files directory ∧
      ∀ start history others other,
        Cache.LookedUp start history (projectRoot files directory) →
        Cache.LookedUp start history (projectRoot others other) →
        ∃ index place, (Cache.after start history).HeldAt files directory index ∧
          (Cache.after start history).HeldAt others other place ∧
          (index = place ↔ (projectRoot files directory).same (projectRoot others other) = true) := by
  obtain ⟨above, settled⟩ := project_root_settles files directory
  refine ⟨above, ?_, project_root_without_package, settled, ?_⟩
  · intro package
    have nearest := project_root_nearest package
    constructor
    · intro root
      constructor
      · exact project_root_of_nearest
      · rintro rfl
        exact nearest
    · intro between below higher
      exact project_root_of_nearest (nearest_between nearest below higher)
  · intro start history others other looked also
    have reflects := Cache.reflects_after start history
    obtain ⟨index, held⟩ := Cache.held_of_looked_up reflects looked
    obtain ⟨place, alike⟩ := Cache.held_of_looked_up reflects also
    exact ⟨index, place, held, alike, Cache.held_same_iff held alike⟩

def nestedDirectory : Path :=
  ⟨true, [.name "w", .name "app", .name "components", .name "forms"]⟩

/-- A directory of a project is served from the entry of its root, and one outside of any
project is its own root. -/
theorem project_roots_canonical_nested :
    NearestPackage Cache.sampleFiles nestedDirectory Cache.sampleRoot ∧
      projectRoot Cache.sampleFiles (Cache.sampleRoot.child "components") = Cache.sampleRoot ∧
      projectRoot Cache.sampleFiles ⟨true, [.name "w"]⟩ = ⟨true, [.name "w"]⟩ ∧
      ∃ index,
        (Cache.after .default [(Cache.sampleFiles, .tags nestedDirectory)]).HeldAt
          Cache.sampleFiles nestedDirectory index ∧
        (Cache.after .default [(Cache.sampleFiles, .tags nestedDirectory)]).HeldAt
          Cache.sampleFiles Cache.sampleRoot index := by
  have nestedRoot : projectRoot Cache.sampleFiles nestedDirectory = Cache.sampleRoot := by
    decide +kernel
  have ownRoot : projectRoot Cache.sampleFiles Cache.sampleRoot = Cache.sampleRoot := by
    decide +kernel
  have looked := Cache.looked_up_of_asking .default [] Cache.sampleFiles
    (show (Cache.Step.tags nestedDirectory).directory? = some nestedDirectory from rfl)
  obtain ⟨-, packaged, -, -, shared⟩ :=
    project_roots_canonical Cache.sampleFiles nestedDirectory
  obtain ⟨nearest, between⟩ := packaged (by decide +kernel)
  obtain ⟨index, place, held, alike, same⟩ := shared .default
    [(Cache.sampleFiles, .tags nestedDirectory)] Cache.sampleFiles Cache.sampleRoot looked
    (by rw [ownRoot, ← nestedRoot]; exact looked)
  have one : index = place := same.mpr (by rw [nestedRoot, ownRoot]; decide)
  rw [nestedRoot] at between
  refine ⟨(nearest _).mpr nestedRoot, between _ (by decide +kernel) (by decide +kernel), ?_,
    index, held, one ▸ alike⟩
  exact (project_roots_canonical Cache.sampleFiles ⟨true, [.name "w"]⟩).2.2.1 (by decide +kernel)

end TemplateServer.Taglib
