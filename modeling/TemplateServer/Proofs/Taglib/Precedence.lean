import TemplateServer.Proofs.Taglib.Sites

/-!
Which of several definitions of a tag a project sees: for each name the one at
its last site, whole, and no tag that is defined at no site. Nothing comes behind
the declarations of the project's own descriptor.
-/

namespace TemplateServer.Taglib

open Text (bytes)

/-- A list of all that is defined at the places, in the order of the places. -/
def Lists {Place : Type} (before : Place → Place → Prop) (defined : Place → TagDefinition → Prop)
    (listed : List TagDefinition) : Prop :=
  ∃ sites : List (Place × TagDefinition), sites.map (·.2) = listed ∧
    sites.Pairwise (fun first second => before first.1 second.1) ∧
    ∀ place definition, (place, definition) ∈ sites ↔ defined place definition

section Lists

variable {Place : Type} {before : Place → Place → Prop}
  {defined other : Place → TagDefinition → Prop} {listed later : List TagDefinition}

theorem lists_congr (lists : Lists before defined listed)
    (same : ∀ place definition, defined place definition ↔ other place definition) :
    Lists before other listed := by
  obtain ⟨sites, rfl, ordered, members⟩ := lists
  exact ⟨sites, rfl, ordered, fun place definition => (members place definition).trans
    (same place definition)⟩

theorem lists_nil (nothing : ∀ place definition, ¬ defined place definition) :
    Lists before defined [] :=
  ⟨[], rfl, List.Pairwise.nil, fun place definition => by simp [nothing place definition]⟩

theorem lists_option (place : Place) (found : Option TagDefinition) :
    Lists before (fun site definition => site = place ∧ found = some definition) found.toList := by
  cases found with
  | none => exact lists_nil (by simp)
  | some definition =>
      refine ⟨[(place, definition)], rfl, List.pairwise_singleton _ _, ?_⟩
      intro site other
      simp [eq_comm]

theorem lists_append (lists : Lists before defined listed) (laterLists : Lists before other later)
    (ordered : ∀ place definition next following, defined place definition →
      other next following → before place next) :
    Lists before (fun place definition => defined place definition ∨ other place definition)
      (listed ++ later) := by
  obtain ⟨sites, rfl, sitesOrdered, sitesMembers⟩ := lists
  obtain ⟨laterSites, rfl, laterOrdered, laterMembers⟩ := laterLists
  refine ⟨sites ++ laterSites, List.map_append, ?_, ?_⟩
  · rw [List.pairwise_append]
    refine ⟨sitesOrdered, laterOrdered, ?_⟩
    rintro ⟨place, definition⟩ member ⟨next, following⟩ laterMember
    exact ordered place definition next following ((sitesMembers place definition).mp member)
      ((laterMembers next following).mp laterMember)
  · intro place definition
    rw [List.mem_append, sitesMembers, laterMembers]

theorem lists_map {Site : Type} {siteBefore : Site → Site → Prop} (site : Place → Site)
    (lists : Lists before defined listed)
    (ordered : ∀ place next, before place next → siteBefore (site place) (site next)) :
    Lists siteBefore
      (fun found definition => ∃ place, found = site place ∧ defined place definition) listed := by
  obtain ⟨sites, rfl, sitesOrdered, members⟩ := lists
  refine ⟨sites.map fun entry => (site entry.1, entry.2), ?_, ?_, ?_⟩
  · rw [List.map_map]
    rfl
  · exact List.pairwise_map.mpr (sitesOrdered.imp (ordered _ _))
  · intro found definition
    rw [List.mem_map]
    constructor
    · rintro ⟨⟨place, here⟩, member, same⟩
      cases same
      exact ⟨place, rfl, (members place here).mp member⟩
    · rintro ⟨place, rfl, here⟩
      exact ⟨(place, definition), (members place definition).mpr here, rfl⟩

/-- Lists of parts that are in order, one after the other. -/
theorem lists_flat_map {Part : Type} {parts : List Part} {listing : Part → List TagDefinition}
    {definedIn : Part → Place → TagDefinition → Prop} {earlier : Part → Part → Prop}
    (sorted : parts.Pairwise earlier)
    (lists : ∀ part ∈ parts, Lists before (definedIn part) (listing part))
    (ordered : ∀ first second place definition next following, earlier first second →
      definedIn first place definition → definedIn second next following → before place next) :
    Lists before (fun place definition => ∃ part ∈ parts, definedIn part place definition)
      (parts.flatMap listing) := by
  induction parts with
  | nil => exact lists_nil (by simp)
  | cons part parts induction =>
      obtain ⟨behind, sorted⟩ := List.pairwise_cons.mp sorted
      have rest := induction sorted fun other member =>
        lists other (List.mem_cons_of_mem part member)
      rw [List.flatMap_cons]
      apply lists_congr (lists_append (lists part List.mem_cons_self) rest ?_)
      · intro place definition
        simp
      · rintro place definition next following here ⟨second, member, there⟩
        exact ordered part second place definition next following (behind second member) here there

end Lists

section Discovery

variable (files : FileSystem)

/-- The tags of a directory, where `place` is the site of an entry. -/
theorem lists_directory {Place : Type} {before : Place → Place → Prop} (owner : Option Path)
    (directory : Path) (place : String → Place)
    (ordered : ∀ name other, bytes name < bytes other → before (place name) (place other)) :
    Lists before
      (fun site definition => ∃ name, site = place name ∧
        DefinedByEntry files owner directory name definition)
      (tagsOfDirectory files owner directory) := by
  cases listed : files.list? directory with
  | none =>
      simp only [tagsOfDirectory, listed, Option.getD_none, List.filterMap_nil]
      apply lists_nil
      rintro site definition ⟨name, -, names, found, -⟩
      rw [listed] at found
      cases found
  | some names =>
      rw [tagsOfDirectory, listed, Option.getD_some, List.filterMap_eq_flatMap_toList]
      apply lists_congr (lists_flat_map (files.list_sorted listed)
        (fun name _ => lists_option (place name) (entryTag? files directory owner name)) ?_)
      · intro site definition
        constructor
        · rintro ⟨name, member, rfl, found⟩
          exact ⟨name, rfl, names, listed, member, found⟩
        · rintro ⟨name, rfl, others, found, member, tag⟩
          rw [listed] at found
          cases found
          exact ⟨name, member, rfl, tag⟩
      · rintro name other _ _ _ _ less ⟨rfl, -⟩ ⟨rfl, -⟩
        exact ordered name other ((Text.lt_iff_bytes_lt name other).mp less)

theorem lists_directories {Place : Type} {before : Place → Place → Prop} (owner : Option Path)
    (directories : List Path) (place : Nat → String → Place)
    (entries : ∀ index name other, bytes name < bytes other →
      before (place index name) (place index other))
    (apart : ∀ first second name other, first < second →
      before (place first name) (place second other)) :
    Lists before
      (fun site definition => ∃ index directory name, site = place index name ∧
        directories[index]? = some directory ∧
        DefinedByEntry files owner directory name definition)
      (directories.flatMap (tagsOfDirectory files owner)) := by
  have numbered : directories.flatMap (tagsOfDirectory files owner) =
      directories.zipIdx.flatMap fun entry => tagsOfDirectory files owner entry.1 := by
    rw [← List.flatMap_map (f := Prod.fst), List.zipIdx_map_fst]
  have sorted : directories.zipIdx.Pairwise fun first second => first.2 < second.2 := by
    rw [← List.pairwise_map, List.zipIdx_map_snd]
    exact List.pairwise_lt_range'
  rw [numbered]
  apply lists_congr (lists_flat_map sorted
    (fun entry _ => lists_directory files owner entry.1 (place entry.2) (entries entry.2)) ?_)
  · intro site definition
    constructor
    · rintro ⟨⟨directory, index⟩, member, name, rfl, found⟩
      exact ⟨index, directory, name, rfl, List.mk_mem_zipIdx_iff_getElem?.mp member, found⟩
    · rintro ⟨index, directory, name, rfl, given, found⟩
      exact ⟨(directory, index), List.mk_mem_zipIdx_iff_getElem?.mpr given, name, rfl, found⟩
  · rintro first second _ _ _ _ less ⟨name, rfl, -⟩ ⟨other, rfl, -⟩
    exact apart first.2 second.2 name other less

/-- The tags of a library that can be used, in the order of its places. -/
theorem lists_library {file : Path} {members : List (String × Json)}
    (described : Describes files file members) :
    Lists LibrarySite.Before (DefinedInLibrary files file members)
      (tagsOfLibrary files (libraryWith file members)) := by
  have entries : Lists LibrarySite.Before _
      ((directoriesOf file members).flatMap (tagsOfDirectory files (some file))) :=
    lists_directories files (some file) (directoriesOf file members) LibrarySite.entry
      (fun index _ _ less => .entries index less)
      (fun _ _ name other less => .directories name other less)
  have keys : Lists LibrarySite.Before
      (fun place definition => ∃ member ∈ members, place = .key member.1 ∧
        declaration? file member = some definition)
      (members.filterMap (declaration? file)) := by
    rw [List.filterMap_eq_flatMap_toList]
    apply lists_flat_map (describes_sorted files described)
      (fun member _ => lists_option (LibrarySite.key member.1) (declaration? file member))
    rintro first second _ _ _ _ less ⟨rfl, -⟩ ⟨rfl, -⟩
    exact .keys ((Text.lt_iff_bytes_lt _ _).mp less)
  apply lists_congr (lists_append entries keys ?_)
  · intro place definition
    constructor
    · rintro (⟨index, directory, name, rfl, given, found⟩ | ⟨⟨key, value⟩, member, rfl, found⟩)
      · exact .entry given found
      · obtain ⟨name, declares, read⟩ := (declaration_iff file (key, value) definition).mp found
        exact .key member declares read
    · rintro (⟨given, found⟩ | ⟨member, declares, read⟩)
      · exact Or.inl ⟨_, _, _, rfl, given, found⟩
      · exact Or.inr ⟨_, member, rfl, (declaration_iff file _ definition).mpr ⟨_, declares, read⟩⟩
  · rintro _ _ _ _ ⟨index, _, name, rfl, -⟩ ⟨member, -, rfl, -⟩
    exact .declared index name member.1

/-- The tags of a library, if its descriptor can be used, as sites of a project. -/
theorem lists_described (file : Path) (site : LibrarySite → Site)
    (ordered : ∀ place next, place.Before next → (site place).Before (site next)) :
    Lists Site.Before
      (fun found definition => ∃ members place, found = site place ∧
        Describes files file members ∧ DefinedInLibrary files file members place definition)
      ((library? files file).toList.flatMap (tagsOfLibrary files)) := by
  cases searched : library? files file with
  | none =>
      apply lists_nil
      rintro found definition ⟨members, -, -, described, -⟩
      rw [(library_iff files file _).mpr ⟨members, described, rfl⟩] at searched
      cases searched
  | some library =>
      obtain ⟨members, described, rfl⟩ := (library_iff files file library).mp searched
      rw [Option.toList_some, List.flatMap_singleton]
      apply lists_congr (lists_map site (lists_library files described) ordered)
      intro found definition
      constructor
      · rintro ⟨place, rfl, here⟩
        exact ⟨members, place, rfl, described, here⟩
      · rintro ⟨others, place, rfl, again, here⟩
        rw [describes_unique files again described] at here
        exact ⟨place, rfl, here⟩

theorem lists_installed (root : Path) :
    Lists Site.Before
      (fun site definition => ∃ dependency ∈ dependencies files root, ∃ members place,
        site = .installed dependency place ∧
        Describes files (installedFile root dependency) members ∧
        DefinedInLibrary files (installedFile root dependency) members place definition)
      ((installedLibraries files root).flatMap (tagsOfLibrary files)) := by
  rw [installed_libraries_eq, List.flatMap_assoc]
  apply lists_flat_map (dependencies_sorted files root)
    (fun dependency _ => lists_described files (installedFile root dependency)
      (Site.installed dependency) fun place next before => .installed dependency before)
  rintro first second _ _ _ _ less ⟨-, place, rfl, -⟩ ⟨-, next, rfl, -⟩
  exact .dependencies place next ((Text.lt_iff_bytes_lt first second).mp less)

theorem lists_configured (options : DiscoveryOptions) (root : Path) :
    Lists Site.Before
      (fun site definition => ∃ index directory name, site = .configured index name ∧
        options.tagsDirs[index]? = some directory ∧
        DefinedByEntry files ((rootLibrary? files root).map (·.path)) (root.child directory) name
          definition)
      (options.tagsDirs.flatMap fun directory =>
        tagsOfDirectory files ((rootLibrary? files root).map (·.path)) (root.child directory)) := by
  have lists : Lists Site.Before _ ((options.tagsDirs.map root.child).flatMap
      (tagsOfDirectory files ((rootLibrary? files root).map (·.path)))) :=
    lists_directories files _ _ Site.configured (fun index _ _ less => .entries index less)
      (fun _ _ name other less => .directories name other less)
  rw [List.flatMap_map] at lists
  apply lists_congr lists
  intro site definition
  constructor
  · rintro ⟨index, directory, name, rfl, given, found⟩
    rw [List.getElem?_map, Option.map_eq_some_iff] at given
    obtain ⟨text, given, rfl⟩ := given
    exact ⟨index, text, name, rfl, given, found⟩
  · rintro ⟨index, text, name, rfl, given, found⟩
    exact ⟨index, root.child text, name, rfl, by rw [List.getElem?_map, given]; rfl, found⟩

/-- The definitions that a project sees are those of its sites, in order. -/
theorem lists_definitions (options : DiscoveryOptions) (root : Path) :
    Lists Site.Before (Defined files options root) (definitions files options root) := by
  have own := lists_described files (ownFile root) Site.own fun _ _ before => .own before
  have configured := lists_configured files options root
  have installed : Lists Site.Before
      (fun site definition => options.installedTaglibs = true ∧
        ∃ dependency ∈ dependencies files root, ∃ members place,
          site = .installed dependency place ∧
          Describes files (installedFile root dependency) members ∧
          DefinedInLibrary files (installedFile root dependency) members place definition)
      (if options.installedTaglibs then
        (installedLibraries files root).flatMap (tagsOfLibrary files) else []) := by
    split
    · rename_i searched
      exact lists_congr (lists_installed files root) (by simp [searched])
    · rename_i skipped
      exact lists_nil (by simp [skipped])
  have below : ∀ site definition next following,
      (options.installedTaglibs = true ∧ ∃ dependency ∈ dependencies files root, ∃ members place,
        site = Site.installed dependency place ∧
        Describes files (installedFile root dependency) members ∧
        DefinedInLibrary files (installedFile root dependency) members place definition) →
      (∃ index directory name, next = Site.configured index name ∧
        options.tagsDirs[index]? = some directory ∧
        DefinedByEntry files ((rootLibrary? files root).map (·.path)) (root.child directory) name
          following) → site.Before next := by
    rintro _ _ _ _ ⟨-, dependency, -, -, place, rfl, -⟩ ⟨index, -, name, rfl, -⟩
    exact .configured_over_installed dependency place index name
  rw [definitions_eq]
  apply lists_congr (lists_append (lists_append installed configured below) own ?_)
  · intro site definition
    constructor
    · rintro ((⟨searched, dependency, needed, members, place, rfl, described, here⟩ |
        ⟨index, directory, name, rfl, given, found⟩) | ⟨members, place, rfl, described, here⟩)
      · have depends := (mem_dependencies files root dependency).mp needed
        exact .installed searched depends described here
      · exact .configured given ((owns_iff files root _).mpr rfl) found
      · exact .own described here
    · rintro (⟨searched, needed, described, here⟩ | ⟨given, owns, found⟩ | ⟨described, here⟩)
      · exact Or.inl (Or.inl ⟨searched, _, (mem_dependencies files root _).mpr needed, _, _, rfl,
          described, here⟩)
      · rw [(owns_iff files root _).mp owns] at found
        exact Or.inl (Or.inr ⟨_, _, _, rfl, given, found⟩)
      · exact Or.inr ⟨_, _, rfl, described, here⟩
  · rintro _ _ _ _ (⟨-, dependency, -, -, place, rfl, -⟩ | ⟨index, -, name, rfl, -⟩)
      ⟨-, next, rfl, -⟩
    · exact .own_over_installed dependency place next
    · exact .own_over_configured index name next

end Discovery

/-- Of the definitions of a name, a lookup that is built in order keeps the one
at the last place. -/
theorem lists_last {Place : Type} {before : Place → Place → Prop}
    {defined : Place → TagDefinition → Prop} {listed : List TagDefinition}
    (asymmetric : ∀ {place other}, before place other → ¬ before other place)
    (lists : Lists before defined listed) (name : String) (definition : TagDefinition) :
    Dictionary.get? (Dictionary.ofList (listed.map fun definition =>
        (definition.name, definition))) name = some definition ↔
      ∃ place, defined place definition ∧ definition.name = name ∧
        ∀ other following, defined other following → following.name = name →
          other = place ∨ before other place := by
  obtain ⟨sites, rfl, ordered, members⟩ := lists
  rw [Dictionary.get_of_list_eq_some_iff, List.map_map]
  constructor
  · rintro ⟨front, back, split, others⟩
    obtain ⟨earlier, rest, rfl, -, split⟩ := List.map_eq_append_iff.mp split
    obtain ⟨⟨place, here⟩, later, rfl, same, rfl⟩ := List.map_eq_cons_iff.mp split
    cases same
    refine ⟨place, (members place here).mp (by simp), rfl, ?_⟩
    intro other following there named
    have member := (members other following).mpr there
    rw [List.mem_append, List.mem_cons] at member
    rcases member with member | same | member
    · have inOrder := (List.pairwise_append.mp ordered).2.2 _ member (place, here) (by simp)
      exact Or.inr inOrder
    · cases same
      exact Or.inl rfl
    · exact absurd named (others _ (List.mem_map_of_mem member))
  · rintro ⟨place, here, rfl, last⟩
    obtain ⟨earlier, later, rfl⟩ := List.append_of_mem ((members place definition).mpr here)
    refine ⟨_, _, by rw [List.map_append, List.map_cons]; rfl, ?_⟩
    rintro _ member named
    obtain ⟨⟨other, following⟩, present, rfl⟩ := List.mem_map.mp member
    have behind := (List.pairwise_cons.mp (List.pairwise_append.mp ordered).2.1).1 _ present
    have there := (members other following).mp (by simp [present])
    rcases last other following there named with rfl | inFront
    · exact asymmetric behind behind
    · exact asymmetric behind inFront

/-- A project sees, for each name, the definition at the last site that defines
it, and no other names; each name once. A tag that the project's own descriptor
declares is as it is declared there. -/
theorem load_sees_last_definition (files : FileSystem) (options : DiscoveryOptions) (root : Path)
    (name : String) :
    (∀ definition, Dictionary.get? (load files options root).tags name = some definition ↔
        ∃ site, Defined files options root site definition ∧ definition.name = name ∧
          ∀ other following, Defined files options root other following →
            following.name = name → other = site ∨ other.Before site) ∧
      (Dictionary.get? (load files options root).tags name = none ↔
        ∀ site definition, Defined files options root site definition → definition.name ≠ name) ∧
      (Dictionary.keys (load files options root).tags).Pairwise (· < ·) ∧
      ∀ members key value, Describes files (ownFile root) members → (key, value) ∈ members →
        tagOfKey? key = some name →
        (name ≠ globalTag ∨ key = "<*>" ∨ "<*>" ∉ Dictionary.keys members) →
        ∃ definition, tagOfJson name (ownFile root) value = .ok definition ∧
          Dictionary.get? (load files options root).tags name = some definition := by
  have lists := lists_definitions files options root
  have seen := lists_last (fun before => before.asymm) lists name
  refine ⟨seen, ?_, Dictionary.sorted_of_list _, ?_⟩
  · obtain ⟨sites, listed, -, members⟩ := lists
    rw [load, Lookup.ofDefinitions, Dictionary.get_of_list_eq_none_iff, ← listed]
    simp only [List.forall_mem_map, Prod.forall, members]
  · intro members key value described member declares last
    obtain ⟨definition, read⟩ := described.usable key value name member declares
    have named := tag_of_json_name read
    refine ⟨definition, read, (seen definition).mpr ⟨.own (.key key),
      .own described (.key member declares read), named, ?_⟩⟩
    intro other following there same
    cases there with
    | installed => exact Or.inr (.own_over_installed _ _ _)
    | configured => exact Or.inr (.own_over_configured _ _ _)
    | own again here =>
        rw [describes_unique files again described] at here
        cases here with
        | entry => exact Or.inr (.own (.declared _ _ _))
        | @key otherKey otherName otherValue _ otherMember also otherRead =>
            have sameName := (tag_of_json_name otherRead).symm.trans same
            subst sameName
            have notLater : otherName ≠ globalTag ∨ key = "<*>" ∨ otherKey ≠ "<*>" := by
              rcases last with plain | bracketed | absent
              · exact Or.inl plain
              · exact Or.inr (Or.inl bracketed)
              · refine Or.inr (Or.inr ?_)
                rintro rfl
                exact absent (List.mem_map_of_mem otherMember)
            rcases key_before_or_eq declares also notLater with rfl | less
            · exact Or.inl rfl
            · exact Or.inr (.own (.keys less))

/-- A project that has a tag by an installed package, in a configured directory,
and in its own descriptor. -/
def layeredFiles : FileSystem :=
  { entries :=
      [(["package.json"], .file (bytes "\x7b\"dependencies\":\x7b\"kit\":\"1\"\x7d\x7d")),
        (["node_modules"], .directory), (["node_modules", "kit"], .directory),
        (["node_modules", "kit", "marko.json"],
          .file (bytes "\x7b\"<card>\":\x7b\"renderer\":\"r.js\"\x7d\x7d")),
        (["components"], .directory), (["components", "card.marko"], .file []),
        (["marko.json"], .file (bytes "\x7b\"<card>\":\x7b\"template\":\"t.marko\"\x7d\x7d"))]
    workingDirectory := ⟨true, []⟩
    configDirectory := none }

/-- The project's own declaration counts, and takes no field of the others. Without
the descriptor of the project, the entry of the configured directory counts. -/
theorem load_sees_last_definition_layered :
    Dictionary.get? (load layeredFiles .default ⟨true, []⟩).tags "card" =
        some ⟨"card", ⟨some (Path.ofText "/t.marko"), none, some (Path.ofText "/marko.json")⟩,
          [], []⟩ ∧
      Dictionary.get? (load (layeredFiles.delete ["marko.json"]) .default ⟨true, []⟩).tags "card" =
        some ⟨"card", ⟨some (Path.ofText "/components/card.marko"), none, none⟩, [], []⟩ := by
  constructor
  · have read : layeredFiles.readText (ownFile ⟨true, []⟩) =
        .ok "\x7b\"<card>\":\x7b\"template\":\"t.marko\"\x7d\x7d" := by decide +kernel
    have parsed : Json.parse? "\x7b\"<card>\":\x7b\"template\":\"t.marko\"\x7d\x7d" =
        some (.object [("<card>", .object [("template", .string "t.marko")])]) := by cbv
    have declaration : tagOfJson "card" (ownFile ⟨true, []⟩)
        (.object [("template", .string "t.marko")]) =
          .ok ⟨"card", ⟨some (Path.ofText "/t.marko"), none, some (Path.ofText "/marko.json")⟩,
            [], []⟩ := by cbv
    have named : tagOfKey? "<card>" = some "card" := by decide +kernel
    have usable : Usable (ownFile ⟨true, []⟩)
        [("<card>", .object [("template", .string "t.marko")])] := by
      intro key value name member declares
      cases List.mem_singleton.mp member
      rw [named] at declares
      cases declares
      exact ⟨_, declaration⟩
    obtain ⟨definition, declared, seen⟩ :=
      (load_sees_last_definition layeredFiles .default ⟨true, []⟩ "card").2.2.2 _ "<card>" _
        ⟨by decide +kernel, ⟨_, read, parsed⟩, usable⟩ List.mem_cons_self named
        (Or.inl (by decide))
    rw [declaration] at declared
    cases declared
    exact seen
  · have unowned : ∀ members,
        ¬ Describes (layeredFiles.delete ["marko.json"]) (ownFile ⟨true, []⟩) members := by
      intro members described
      exact absurd described.is_file (by decide +kernel)
    have listed : (layeredFiles.delete ["marko.json"]).list? (Path.child ⟨true, []⟩ "components") =
        some ["card.marko"] := by decide +kernel
    have found : DefinedByEntry (layeredFiles.delete ["marko.json"]) none
        (Path.child ⟨true, []⟩ "components") "card.marko"
        ⟨"card", ⟨some (Path.ofText "/components/card.marko"), none, none⟩, [], []⟩ :=
      ⟨_, listed, List.mem_cons_self, by decide +kernel⟩
    apply ((load_sees_last_definition _ .default ⟨true, []⟩ "card").1 _).mpr
    refine ⟨.configured 0 "card.marko", .configured rfl (.undescribed unowned) found, rfl, ?_⟩
    intro other following there named
    cases there with
    | installed => exact Or.inr (.configured_over_installed _ _ _ _)
    | own described => exact absurd described (unowned _)
    | @configured index directory name owner _ given owns here =>
        obtain ⟨names, again, member, -⟩ := here
        change ["components"][index]? = some directory at given
        cases index with
        | zero =>
            cases given
            rw [listed] at again
            cases again
            exact Or.inl (by rw [List.mem_singleton.mp member])
        | succ index => cases given

end TemplateServer.Taglib
