import TemplateServer.Settings.Load

/-!
Settings are resolved field by field. Of all layers, from the defaults up to what
the client sent last, the highest one that can be read and sets a field decides
it. A file that is not there, that cannot be read or that holds no settings, and
a client value that is none, count as if there were no such layer.
-/

namespace TemplateServer

def layerOfFile? (files : FileSystem) (path : Path) : Option SettingsLayer :=
  (files.readText path).toOption.bind SettingsLayer.ofToml?

def layerOfClient? (value : Json) : Option SettingsLayer :=
  (SettingsLayer.decode (clientSection value)).toOption

/-- The layers that are not from the client, from the highest to the lowest. -/
def layersOfFiles (files : FileSystem) (root : Option Path) : List (Option SettingsLayer) :=
  [root.bind fun directory => layerOfFile? files (directory.child configFileName),
    (userConfigPath? files).bind (layerOfFile? files), some SettingsLayer.default]

/-- What the highest layer that sets a field says in it. -/
def decided {Field : Type} (field : SettingsLayer → Option Field)
    (layers : List (Option SettingsLayer)) : Option Field :=
  layers.findSome? fun layer => layer.bind field

structure Settings.Resolves (settings : Settings) (layers : List (Option SettingsLayer)) :
    Prop where
  componentFiles : decided SettingsLayer.componentFiles layers = some settings.componentFiles
  tagsDirs : decided SettingsLayer.tagsDirs layers = some settings.tagsDirs
  installedTaglibs : decided SettingsLayer.installedTaglibs layers = some settings.installedTaglibs

theorem resolves_unique {layers : List (Option SettingsLayer)} {first second : Settings}
    (left : first.Resolves layers) (right : second.Resolves layers) : first = second := by
  cases first
  cases second
  rw [Settings.mk.injEq]
  refine ⟨?_, ?_, ?_⟩
  · exact Option.some.inj (left.componentFiles.symm.trans right.componentFiles)
  · exact Option.some.inj (left.tagsDirs.symm.trans right.tagsDirs)
  · exact Option.some.inj (left.installedTaglibs.symm.trans right.installedTaglibs)

section Merge

variable {Field : Type} {field : SettingsLayer → Option Field}

theorem decided_append (higher lower : List (Option SettingsLayer)) :
    decided field (higher ++ lower) = (decided field higher).or (decided field lower) :=
  List.findSome?_append

theorem merge_field (layered : ∀ upper lower, field (upper.above lower) =
    (field upper).or (field lower)) (lower upper : Option SettingsLayer) :
    (SettingsLayer.merge lower upper).bind field = (upper.bind field).or (lower.bind field) := by
  cases lower with
  | none => simp [SettingsLayer.merge]
  | some lower =>
      cases upper with
      | none => simp [SettingsLayer.merge]
      | some upper => exact layered upper lower

theorem foldl_merge_field (layered : ∀ upper lower, field (upper.above lower) =
    (field upper).or (field lower)) (layers : List (Option SettingsLayer))
    (lowest : Option SettingsLayer) :
    (layers.foldl SettingsLayer.merge lowest).bind field =
      (decided field layers.reverse).or (lowest.bind field) := by
  -- each layer is merged into the lowest one, which therefore varies
  induction layers generalizing lowest with
  | nil => rfl
  | cons layer rest induction =>
      have single : decided field [layer] = layer.bind field := by
        simp only [decided, List.findSome?_cons, List.findSome?_nil]
        cases layer.bind field with
        | none => rfl
        | some value => rfl
      rw [List.foldl_cons, induction, merge_field layered, List.reverse_cons, decided_append,
        single, Option.or_assoc]

/-- In a merge of layers each field is what the last layer that sets it says. -/
theorem merge_all_field (layered : ∀ upper lower, field (upper.above lower) =
    (field upper).or (field lower)) (layers : List (Option SettingsLayer)) :
    (SettingsLayer.mergeAll layers).bind field = decided field layers.reverse := by
  rw [SettingsLayer.mergeAll, foldl_merge_field layered, Option.bind_none, Option.or_none]

theorem merge_above_some (lowest : SettingsLayer) (layers : List (Option SettingsLayer)) :
    ∃ whole, SettingsLayer.mergeAll (some lowest :: layers) = some whole := by
  have kept : ∀ lowest : SettingsLayer, ∃ whole,
      layers.foldl SettingsLayer.merge (some lowest) = some whole := by
    induction layers with
    | nil => exact fun lowest => ⟨lowest, rfl⟩
    | cons layer rest induction =>
        intro lowest
        cases layer with
        | none => exact induction lowest
        | some upper => exact induction (upper.above lowest)
  exact kept lowest

/-- The default of a field counts where no layer above sets it, so putting the
defaults under a merge once more makes no difference. -/
theorem decided_above_default (field : SettingsLayer → Option Field)
    (layered : ∀ upper lower, field (upper.above lower) = (field upper).or (field lower))
    {layers : List (Option SettingsLayer)} {standard : Field}
    (set : field SettingsLayer.default = some standard) {whole : SettingsLayer}
    (merged : SettingsLayer.mergeAll (some SettingsLayer.default :: layers) = some whole)
    (otherwise : Field) :
    decided field (some SettingsLayer.default :: layers).reverse =
      some (((field whole).or (field SettingsLayer.default)).getD otherwise) := by
  have found := merge_all_field layered (some SettingsLayer.default :: layers)
  have lowest : decided field [some SettingsLayer.default] = some standard := by
    simp [decided, set]
  rw [merged, Option.bind_some, List.reverse_cons, decided_append, lowest] at found
  rw [List.reverse_cons, decided_append, lowest, found]
  cases decided field layers.reverse with
  | none => rfl
  | some value => rfl

end Merge

theorem read_text_not_file {files : FileSystem} {path : Path}
    (absent : ¬ files.isFile path = true) : (files.readText path).toOption = none := by
  rw [FileSystem.isFile] at absent
  rw [FileSystem.readText]
  cases found : files.resolve path with
  | error cause => rfl
  | ok entry =>
      obtain ⟨location, entry⟩ := entry
      cases entry with
      | directory => rfl
      | file content =>
          rw [found] at absent
          exact absurd rfl absent

/-- What is told about a file does not bear on the layer in it. -/
theorem read_layer_eq (read : Except IoError String) (unreadable : IoError → List SettingsEvent)
    (malformed loaded : List SettingsEvent) :
    Prod.fst
      (match read with
        | .error cause => (none, unreadable cause)
        | .ok contents =>
            match SettingsLayer.ofToml? contents with
            | none => (none, malformed)
            | some layer => (some layer, loaded)) =
      read.toOption.bind SettingsLayer.ofToml? := by
  cases read with
  | error cause => rfl
  | ok contents =>
      simp only [Except.toOption, Option.bind_some]
      cases SettingsLayer.ofToml? contents with
      | none => rfl
      | some layer => rfl

theorem user_layer_eq (files : FileSystem) :
    (userLayer files).1 = (userConfigPath? files).bind (layerOfFile? files) := by
  rw [userLayer]
  cases userConfigPath? files with
  | none => rfl
  | some path =>
      rw [Option.bind_some, layerOfFile?]
      by_cases present : files.isFile path = true
      · simp only [if_pos present]
        exact read_layer_eq _ _ _ _
      · simp only [if_neg present, read_text_not_file present]
        rfl

theorem project_layer_eq (files : FileSystem) (root : Option Path) :
    (projectLayer files root).1 =
      root.bind fun directory => layerOfFile? files (directory.child configFileName) := by
  cases root with
  | none => rfl
  | some directory =>
      simp only [projectLayer, Option.bind_some, layerOfFile?]
      by_cases present : files.fileExists (directory.child configFileName) = true
      · simp only [if_pos present]
        exact read_layer_eq _ _ _ _
      · -- the project file is only asked for its existence, which a file has
        have missing : ¬ files.isFile (directory.child configFileName) = true := by
          rw [FileSystem.fileExists] at present
          rw [FileSystem.isFile]
          cases found : files.resolve (directory.child configFileName) with
          | error cause => exact Bool.false_ne_true
          | ok entry =>
              rw [found] at present
              exact absurd rfl present
        simp only [if_neg present, read_text_not_file missing]
        rfl

theorem client_layer_eq (source : SettingsSource) (value : Json) :
    (clientLayer source value).1 = layerOfClient? value := by
  rw [clientLayer, layerOfClient?]
  split
  · -- null is passed over in silence, but it could not be read either
    rename_i nothing
    rw [nothing]
    rfl
  · split
    · rename_i layer decoded
      rw [decoded]
      rfl
    · rename_i cause failed
      rw [failed]
      rfl

theorem settings_layers_eq (files : FileSystem) (root : Option Path)
    (client : List (SettingsSource × Json)) :
    (some SettingsLayer.default :: (settingsLayers files root client).map (·.1)).reverse =
      (client.map fun sent => layerOfClient? sent.2).reverse ++ layersOfFiles files root := by
  have sent : (client.map fun sent => (clientLayer sent.1 sent.2).1) =
      client.map fun sent => layerOfClient? sent.2 := by
    apply List.map_congr_left
    intro entry _
    exact client_layer_eq entry.1 entry.2
  have whole : (settingsLayers files root client).map (·.1) =
      (userLayer files).1 :: (projectLayer files root).1 ::
        client.map fun sent => (clientLayer sent.1 sent.2).1 := by
    rw [settingsLayers, List.map_cons, List.map_cons, List.map_map]
    rfl
  rw [whole, user_layer_eq, project_layer_eq, sent, layersOfFiles]
  simp

/-- There are always settings, as the defaults are never absent. -/
theorem load_settings_whole (files : FileSystem) (root : Option Path)
    (client : List (SettingsSource × Json)) :
    ∃ whole, SettingsLayer.mergeAll
        (some SettingsLayer.default :: (settingsLayers files root client).map (·.1)) = some whole ∧
      (loadSettings files root client).settings = Settings.ofLayer whole := by
  obtain ⟨whole, merged⟩ := merge_above_some SettingsLayer.default
    ((settingsLayers files root client).map (·.1))
  refine ⟨whole, merged, ?_⟩
  simp only [loadSettings, merged, Option.map_some, Option.getD_some]

/-- Whatever is in the files and whatever the client sent, loading gives the
settings that the layers decide. -/
theorem load_settings_resolves (files : FileSystem) (root : Option Path)
    (client : List (SettingsSource × Json)) :
    (loadSettings files root client).settings.Resolves
      ((client.map fun sent => layerOfClient? sent.2).reverse ++ layersOfFiles files root) := by
  obtain ⟨whole, merged, loaded⟩ := load_settings_whole files root client
  rw [loaded, ← settings_layers_eq]
  constructor
  · exact decided_above_default SettingsLayer.componentFiles (fun _ _ => rfl) rfl merged []
  · exact decided_above_default SettingsLayer.tagsDirs (fun _ _ => rfl) rfl merged []
  · exact decided_above_default SettingsLayer.installedTaglibs (fun _ _ => rfl) rfl merged false

end TemplateServer
