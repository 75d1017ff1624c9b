import Mathlib.Data.List.Forall2
import TemplateServer.Proofs.FileSystem.Change
import TemplateServer.Proofs.Settings.Resolution

/-!
How layers of settings combine. Merging is associative and an absent layer is
neutral in it, so layers may be merged part by part, and each field of the whole
is what the last layer to set it says. A layer that could not be read may as well
be absent: the settings are the same, and only less is told about them.
-/

namespace TemplateServer

namespace SettingsLayer

theorem above_assoc (upper middle lower : SettingsLayer) :
    (upper.above middle).above lower = upper.above (middle.above lower) := by
  simp only [above, Option.or_assoc]

@[simp]
theorem merge_none_left (upper : Option SettingsLayer) : merge none upper = upper := by
  cases upper with
  | none => rfl
  | some upper => rfl

@[simp]
theorem merge_none_right (lower : Option SettingsLayer) : merge lower none = lower := by
  cases lower with
  | none => rfl
  | some lower => rfl

theorem merge_assoc (lower middle upper : Option SettingsLayer) :
    merge (merge lower middle) upper = merge lower (merge middle upper) := by
  cases lower with
  | none => simp only [merge_none_left]
  | some lower =>
      cases middle with
      | none => simp only [merge_none_left, merge_none_right]
      | some middle =>
          cases upper with
          | none => simp only [merge_none_right]
          | some upper => exact congrArg some (above_assoc upper middle lower).symm

instance : Std.Associative merge := ⟨merge_assoc⟩

theorem merge_eq_none_iff (lower upper : Option SettingsLayer) :
    merge lower upper = none ↔ lower = none ∧ upper = none := by
  cases lower with
  | none => simp
  | some lower =>
      cases upper with
      | none => simp
      | some upper => simp [merge]

/-- Layers may be merged part by part. -/
theorem merge_all_append (lower upper : List (Option SettingsLayer)) :
    mergeAll (lower ++ upper) = merge (mergeAll lower) (mergeAll upper) := by
  -- by associativity the second part need not start from what the first one gave
  have parts := @List.foldl_assoc _ merge _ upper (mergeAll lower) none
  rw [merge_none_right] at parts
  rw [mergeAll, List.foldl_append]
  exact parts

theorem merge_all_eq_none_iff (layers : List (Option SettingsLayer)) :
    mergeAll layers = none ↔ ∀ layer ∈ layers, layer = none := by
  induction layers with
  | nil => simp [mergeAll]
  | cons layer rest induction =>
      have first : mergeAll [layer] = layer := merge_none_left layer
      rw [← List.singleton_append, merge_all_append, merge_eq_none_iff, first, induction]
      simp

/-- Each field is what the last of some layers to set it says. -/
structure Merges (whole : SettingsLayer) (layers : List (Option SettingsLayer)) : Prop where
  componentFiles : whole.componentFiles = decided SettingsLayer.componentFiles layers.reverse
  tagsDirs : whole.tagsDirs = decided SettingsLayer.tagsDirs layers.reverse
  installedTaglibs : whole.installedTaglibs = decided SettingsLayer.installedTaglibs layers.reverse

theorem merge_all_merges {layers : List (Option SettingsLayer)} {whole : SettingsLayer}
    (merged : mergeAll layers = some whole) : whole.Merges layers := by
  have last : ∀ {Field : Type} {field : SettingsLayer → Option Field},
      (∀ upper lower, field (upper.above lower) = (field upper).or (field lower)) →
      field whole = decided field layers.reverse := by
    intro Field field layered
    rw [← merge_all_field layered, merged, Option.bind_some]
  exact ⟨last fun _ _ => rfl, last fun _ _ => rfl, last fun _ _ => rfl⟩

end SettingsLayer

section Dropping

/-- An outcome is as it was, or in place of a layer that could not be read there is
an absent one, about which nothing is told. -/
inductive Dropped : LayerOutcome → LayerOutcome → Prop
  | kept (outcome : LayerOutcome) : Dropped outcome outcome
  | unread (events : List SettingsEvent) : Dropped (none, events) (none, [])

structure SettingsOutcome.Quieter (before after : SettingsOutcome) : Prop where
  settings : after.settings = before.settings
  events : after.events.Sublist before.events

theorem dropped_layers {before after : List LayerOutcome}
    (dropped : List.Forall₂ Dropped before after) :
    after.map (·.1) = before.map (·.1) := by
  induction dropped with
  | nil => rfl
  | cons first rest induction =>
      rw [List.map_cons, List.map_cons, induction]
      cases first with
      | kept outcome => rfl
      | unread events => rfl

theorem dropped_events {before after : List LayerOutcome}
    (dropped : List.Forall₂ Dropped before after) :
    (after.flatMap (·.2)).Sublist (before.flatMap (·.2)) := by
  induction dropped with
  | nil => exact List.Sublist.refl []
  | cons first rest induction =>
      rw [List.flatMap_cons, List.flatMap_cons]
      apply List.Sublist.append _ induction
      cases first with
      | kept outcome => exact List.Sublist.refl _
      | unread events => exact List.nil_sublist events

variable {files after : FileSystem} {root elsewhere : Option Path}
  {client others : List (SettingsSource × Json)}

/-- Layers that could not be read do as little as absent ones. -/
theorem load_settings_dropped
    (dropped : List.Forall₂ Dropped (settingsLayers files root client)
      (settingsLayers after elsewhere others)) :
    (loadSettings files root client).Quieter (loadSettings after elsewhere others) := by
  constructor
  · simp only [loadSettings, dropped_layers dropped]
  · exact dropped_events dropped

end Dropping

section Removal

open FileSystem (FileRemoved)

variable {files after : FileSystem} {location : List String} {content : List UInt8} {path : Path}

theorem layer_of_file_eq (found : files.resolve path = .ok (location, .file content)) :
    layerOfFile? files path = (Text.decode? content).bind SettingsLayer.ofToml? := by
  rw [layerOfFile?]
  cases decoded : Text.decode? content with
  | some text =>
      rw [(files.read_text_iff path text).mpr ⟨location, content, found, decoded⟩]
      rfl
  | none =>
      cases read : files.readText path with
      | error cause => rfl
      | ok text =>
          obtain ⟨place, other, resolved, spelled⟩ := (files.read_text_iff path text).mp read
          rw [found] at resolved
          cases resolved
          rw [decoded] at spelled
          cases spelled

/-- Without the settings file at its path, there is no layer of the user. -/
theorem user_layer_missing (configured : userConfigPath? files = some path) {cause : IoError}
    (missing : files.resolve path = .error cause) : userLayer files = (none, []) := by
  simp only [userLayer, configured, FileSystem.isFile, missing, Bool.false_eq_true, if_false]

theorem project_layer_missing {directory : Path} {cause : IoError}
    (missing : files.resolve (directory.child configFileName) = .error cause) :
    projectLayer files (some directory) = (none, []) := by
  simp only [projectLayer, FileSystem.fileExists, missing, Bool.false_eq_true, if_false]

theorem dropped_of_none {outcome : LayerOutcome} (absent : outcome.1 = none) :
    Dropped outcome (none, []) := by
  obtain ⟨layer, events⟩ := outcome
  cases absent
  exact .unread events

variable (removed : FileRemoved location files after)
  (there : files.entryAt? location = some (.file content))
  (unread : (Text.decode? content).bind SettingsLayer.ofToml? = none)

include removed there unread

/-- A file at some path is as it was before another one was removed, or there was no
layer in it and nothing is found there now. -/
theorem layer_removed (path : Path) :
    after.resolve path = files.resolve path ∨
      ∃ cause, after.resolve path = .error cause ∧
        ((∃ reason, files.resolve path = .error reason) ∨ layerOfFile? files path = none) := by
  rcases removed.resolve_cases path with same | ⟨cause, failed, missing | ⟨entry, found⟩⟩
  · exact Or.inl same
  · exact Or.inr ⟨cause, failed, Or.inl missing⟩
  · obtain ⟨-, -, -, again⟩ := (files.resolve_ok_iff path location entry).mp found
    rw [there] at again
    cases again
    exact Or.inr ⟨cause, failed, Or.inr ((layer_of_file_eq found).trans unread)⟩

theorem user_layer_removed (configured : after.configDirectory = files.configDirectory) :
    Dropped (userLayer files) (userLayer after) := by
  have samePath : userConfigPath? after = userConfigPath? files := by
    rw [userConfigPath?, configured, userConfigPath?]
  cases asked : userConfigPath? files with
  | none =>
      rw [userLayer, userLayer, samePath, asked]
      exact .kept _
  | some path =>
      rcases layer_removed removed there unread path with
        same | ⟨cause, failed, ⟨reason, missing⟩ | none⟩
      · have file : after.isFile path = files.isFile path := by
          rw [FileSystem.isFile, FileSystem.isFile, same]
        have read : after.readText path = files.readText path := by
          rw [FileSystem.readText, FileSystem.readText, same]
        have equal : userLayer after = userLayer files := by
          simp only [userLayer, samePath, asked, file, read]
        rw [equal]
        exact .kept _
      · rw [user_layer_missing asked missing, user_layer_missing (samePath.trans asked) failed]
        exact .kept _
      · rw [user_layer_missing (samePath.trans asked) failed]
        apply dropped_of_none
        rw [user_layer_eq, asked, Option.bind_some, none]

theorem project_layer_removed (root : Option Path) :
    Dropped (projectLayer files root) (projectLayer after root) := by
  cases root with
  | none => exact .kept _
  | some directory =>
      rcases layer_removed removed there unread (directory.child configFileName) with
        same | ⟨cause, failed, ⟨reason, missing⟩ | none⟩
      · have present : after.fileExists (directory.child configFileName) =
            files.fileExists (directory.child configFileName) := by
          rw [FileSystem.fileExists, FileSystem.fileExists, same]
        have read : after.readText (directory.child configFileName) =
            files.readText (directory.child configFileName) := by
          rw [FileSystem.readText, FileSystem.readText, same]
        have equal : projectLayer after (some directory) = projectLayer files (some directory) := by
          simp only [projectLayer, present, read]
        rw [equal]
        exact .kept _
      · rw [project_layer_missing missing, project_layer_missing failed]
        exact .kept _
      · rw [project_layer_missing failed]
        apply dropped_of_none
        rw [project_layer_eq, Option.bind_some, none]

/-- A file without a layer in it may be removed. -/
theorem settings_layers_removed (configured : after.configDirectory = files.configDirectory)
    (root : Option Path) (client : List (SettingsSource × Json)) :
    List.Forall₂ Dropped (settingsLayers files root client) (settingsLayers after root client) := by
  apply List.Forall₂.cons (user_layer_removed removed there unread configured)
  apply List.Forall₂.cons (project_layer_removed removed there unread root)
  exact List.forall₂_same.mpr fun outcome _ => .kept outcome

end Removal

section Client

variable {files : FileSystem} {root : Option Path} {front back : List (SettingsSource × Json)}

/-- A client value counts by its section alone. -/
theorem load_settings_section {source : SettingsSource} {value other : Json}
    (same : clientSection value = clientSection other) :
    loadSettings files root (front ++ (source, value) :: back) =
      loadSettings files root (front ++ (source, other) :: back) := by
  have equal : clientLayer source value = clientLayer source other := by
    rw [clientLayer, clientLayer, same]
  simp only [loadSettings, settingsLayers, List.map_append, List.map_cons, equal]

theorem merge_all_absent (lower upper : List (Option SettingsLayer)) :
    SettingsLayer.mergeAll (lower ++ none :: upper) = SettingsLayer.mergeAll (lower ++ upper) := by
  have absent : SettingsLayer.mergeAll (none :: upper) = SettingsLayer.mergeAll upper := rfl
  rw [SettingsLayer.merge_all_append, absent, ← SettingsLayer.merge_all_append]

/-- A section that is null is passed over. -/
theorem load_settings_null {source : SettingsSource} {value : Json}
    (null : clientSection value = .null) :
    loadSettings files root (front ++ (source, value) :: back) =
      loadSettings files root (front ++ back) := by
  have silent : clientLayer source value = (none, []) := by rw [clientLayer, null]
  simp only [loadSettings, settingsLayers, List.map_append, List.map_cons, silent,
    List.flatMap_cons, List.flatMap_append, List.nil_append]
  -- in front of the absent layer are the defaults, both files and the first client values
  rw [← List.cons_append, ← List.cons_append, ← List.cons_append, merge_all_absent]
  rfl

/-- A value that could not be read may be null instead. -/
theorem settings_layers_nulled {source : SettingsSource} {value : Json}
    (unread : layerOfClient? value = none) :
    List.Forall₂ Dropped (settingsLayers files root (front ++ (source, value) :: back))
      (settingsLayers files root (front ++ (source, .null) :: back)) := by
  have same : ∀ outcomes : List LayerOutcome, List.Forall₂ Dropped outcomes outcomes :=
    fun outcomes => List.forall₂_same.mpr fun outcome _ => .kept outcome
  have nulled : Dropped (clientLayer source value) (clientLayer source .null) :=
    dropped_of_none ((client_layer_eq source value).trans unread)
  unfold settingsLayers
  rw [List.map_append, List.map_append, List.map_cons, List.map_cons]
  exact .cons (.kept _) (.cons (.kept _) (List.rel_append (same _) (.cons nulled (same _))))

end Client

/-- Layers are merged field by field, the last one that sets a field decides it, and
a merge of nothing but absent layers is absent. Loading therefore always gives
settings, in which each field is from the highest layer that can be read and sets
it. A layer that cannot be read, be it a file that is removed or a client value,
changes no setting when it is absent instead. A client value that is null, or whose
own section is, does nothing at all, and beside its own section nothing counts. -/
theorem settings_layered :
    (∀ layers : List (Option SettingsLayer),
      (SettingsLayer.mergeAll layers = none ↔ ∀ layer ∈ layers, layer = none) ∧
      ∀ whole, SettingsLayer.mergeAll layers = some whole → whole.Merges layers) ∧
    (∀ lower upper : List (Option SettingsLayer),
      SettingsLayer.mergeAll (lower ++ upper) =
        SettingsLayer.merge (SettingsLayer.mergeAll lower) (SettingsLayer.mergeAll upper)) ∧
    (∀ (files : FileSystem) (root : Option Path) (client : List (SettingsSource × Json)),
      (∃ whole, SettingsLayer.mergeAll
          (some SettingsLayer.default :: (settingsLayers files root client).map (·.1)) =
            some whole ∧
        (loadSettings files root client).settings = Settings.ofLayer whole) ∧
      (loadSettings files root client).settings.Resolves
        ((client.map fun sent => layerOfClient? sent.2).reverse ++ layersOfFiles files root) ∧
      (∀ after elsewhere others,
        List.Forall₂ Dropped (settingsLayers files root client)
          (settingsLayers after elsewhere others) →
        (loadSettings files root client).Quieter (loadSettings after elsewhere others)) ∧
      ∀ location content after, files.entryAt? location = some (.file content) →
        (Text.decode? content).bind SettingsLayer.ofToml? = none →
        FileSystem.FileRemoved location files after →
        after.configDirectory = files.configDirectory →
        (loadSettings files root client).Quieter (loadSettings after root client)) ∧
    ∀ (files : FileSystem) (root : Option Path) (front back : List (SettingsSource × Json))
      (source : SettingsSource) (value : Json),
      (layerOfClient? value = none →
        (loadSettings files root (front ++ (source, value) :: back)).Quieter
          (loadSettings files root (front ++ (source, .null) :: back))) ∧
      (value = .null ∨ value.member? "marko" = some .null →
        loadSettings files root (front ++ (source, value) :: back) =
          loadSettings files root (front ++ back)) ∧
      ∀ part other, value.member? "marko" = some part → other.member? "marko" = some part →
        loadSettings files root (front ++ (source, value) :: back) =
          loadSettings files root (front ++ (source, other) :: back) := by
  refine ⟨?_, SettingsLayer.merge_all_append, ?_, ?_⟩
  · intro layers
    exact ⟨SettingsLayer.merge_all_eq_none_iff layers,
      fun whole merged => SettingsLayer.merge_all_merges merged⟩
  · intro files root client
    refine ⟨load_settings_whole files root client, load_settings_resolves files root client, ?_, ?_⟩
    · intro after elsewhere others dropped
      exact load_settings_dropped dropped
    · intro location content after there unread removed configured
      exact load_settings_dropped
        (settings_layers_removed removed there unread configured root client)
  · intro files root front back source value
    refine ⟨?_, ?_, ?_⟩
    · intro unread
      exact load_settings_dropped (settings_layers_nulled unread)
    · intro null
      apply load_settings_null
      rcases null with rfl | own
      · rfl
      · rw [clientSection, own, Option.getD_some]
    · intro part other own otherOwn
      apply load_settings_section
      rw [clientSection, clientSection, own, otherOwn, Option.getD_some, Option.getD_some]

/-- The user chose a directory, and the file of the project is no text. -/
def unreadableProjectFiles : FileSystem :=
  { entries :=
      [(["home"], .directory), (["home", "marko-ls"], .directory),
        (["home", "marko-ls", "marko-ls.toml"], .file (Text.bytes "tagsDirs = [\"ui\"]")),
        (["app"], .directory), (["app", "marko-ls.toml"], .file [255])]
    workingDirectory := ⟨true, []⟩
    configDirectory := some (Path.ofText "/home") }

def chosenByClient : Json :=
  .object [("marko", .object [("tagsDirs", .array [.string "parts"])])]

/-- The directory of the user stays chosen, whether the other two layers are there
or not, until a client chooses another one. -/
theorem settings_layered_unreadable_project :
    (loadSettings unreadableProjectFiles (some (Path.ofText "/app"))
        [(.initializationOptions, .bool true)]).Quieter
      (loadSettings (unreadableProjectFiles.delete ["app", "marko-ls.toml"])
        (some (Path.ofText "/app")) [(.initializationOptions, .bool true)]) ∧
    (loadSettings unreadableProjectFiles (some (Path.ofText "/app"))
        [(.initializationOptions, .bool true)]).Quieter
      (loadSettings unreadableProjectFiles (some (Path.ofText "/app"))
        [(.initializationOptions, .null)]) ∧
    loadSettings unreadableProjectFiles (some (Path.ofText "/app"))
        [(.initializationOptions, .null)] =
      loadSettings unreadableProjectFiles (some (Path.ofText "/app")) [] ∧
    (loadSettings unreadableProjectFiles (some (Path.ofText "/app")) []).settings.tagsDirs =
      ["ui"] ∧
    (loadSettings unreadableProjectFiles (some (Path.ofText "/app"))
        [(.initializationOptions, chosenByClient)]).settings.tagsDirs = ["parts"] := by
  obtain ⟨-, -, loading, sending⟩ := settings_layered
  have entry : unreadableProjectFiles.entryAt? ["app", "marko-ls.toml"] = some (.file [255]) := by
    decide +kernel
  have unread : (Text.decode? [255]).bind SettingsLayer.ofToml? = none := by decide +kernel
  have removed : FileSystem.FileRemoved ["app", "marko-ls.toml"] unreadableProjectFiles
      (unreadableProjectFiles.delete ["app", "marko-ls.toml"]) :=
    FileSystem.file_removed_delete entry (by decide +kernel)
  have undecoded : layerOfClient? (.bool true) = none := rfl
  have chosen : decided SettingsLayer.tagsDirs
      (layersOfFiles unreadableProjectFiles (some (Path.ofText "/app"))) = some ["ui"] := by
    decide +kernel
  have overruled : decided SettingsLayer.tagsDirs
      (some ⟨none, some ["parts"], none⟩ ::
        layersOfFiles unreadableProjectFiles (some (Path.ofText "/app"))) = some ["parts"] := by
    decide +kernel
  refine ⟨(loading _ _ _).2.2.2 _ _ _ entry unread removed rfl,
    (sending _ _ [] [] _ _).1 undecoded, (sending _ _ [] [] _ _).2.1 (Or.inl rfl), ?_, ?_⟩
  · have resolved := (loading unreadableProjectFiles (some (Path.ofText "/app")) []).2.1
    exact Option.some.inj (resolved.tagsDirs.symm.trans chosen)
  · have resolved := (loading unreadableProjectFiles (some (Path.ofText "/app"))
      [(.initializationOptions, chosenByClient)]).2.1
    exact Option.some.inj (resolved.tagsDirs.symm.trans overruled)

end TemplateServer
