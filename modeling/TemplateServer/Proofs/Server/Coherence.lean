import TemplateServer.Proofs.Server.Calls
import TemplateServer.Proofs.Settings.Resolution
import TemplateServer.Proofs.Taglib.Transparency

/-!
The settings, the options that tags are searched with and the projects that have
been loaded are kept in three places, and calls reach them in different orders.
They never come apart. Whatever calls were made before, a reload gives the
settings that the files of that moment and the last words of the client decide.
-/

namespace TemplateServer.Session

def lastOptions : Calls → Option Json
  | [] => none
  | (_, .request (.start _ options)) :: _ => options
  | _ :: earlier => lastOptions earlier

def lastConfiguration : Calls → Option Json
  | [] => none
  | (_, .notification (.didChangeConfiguration .null)) :: earlier => lastConfiguration earlier
  | (_, .notification (.didChangeConfiguration configuration)) :: _ => some configuration
  | _ :: earlier => lastConfiguration earlier

def sentLayers (calls : Calls) : List (Option SettingsLayer) :=
  [(lastConfiguration calls).bind layerOfClient?, (lastOptions calls).bind layerOfClient?]

/-- A server whose cache goes with its settings, and that has forgotten nothing of
what the client said last. -/
structure Coherent (calls : Calls) (server : Server) : Prop where
  options : server.cache.options = .ofSettings server.settings
  loaded : ∀ entry ∈ server.cache.lookups, ∃ made ∈ calls,
    entry.2 = Taglib.load made.1 server.cache.options entry.1
  initializationOptions : server.initializationOptions = lastOptions calls
  clientConfiguration : server.clientConfiguration = lastConfiguration calls

section Step

variable {calls : Calls} {server next : Server}

theorem coherent_hear (coherent : Coherent calls server) (files : FileSystem) (call : Call) :
    Coherent ((files, call) :: calls) (server.hear files call) := by
  have older : ∀ entry ∈ server.cache.lookups, ∃ made ∈ (files, call) :: calls,
      entry.2 = Taglib.load made.1 server.cache.options entry.1 := by
    intro entry member
    obtain ⟨made, earlier, same⟩ := coherent.loaded entry member
    exact ⟨made, List.mem_cons_of_mem _ earlier, same⟩
  -- what the server has stored is compared with what the longer history ends in
  cases call with
  | request request =>
      cases request with
      | start hints options =>
          cases workspaceRoot : Server.workspaceRoot? files hints with
          | none =>
              rw [Server.hear, workspaceRoot]
              exact ⟨coherent.options, older, rfl, coherent.clientConfiguration⟩
          | some root =>
              rw [Server.hear, workspaceRoot]
              exact ⟨coherent.options, older, rfl, coherent.clientConfiguration⟩
      | _ =>
          exact ⟨coherent.options, older, coherent.initializationOptions,
            coherent.clientConfiguration⟩
  | notification notification =>
      cases notification with
      | didChangeConfiguration configuration =>
          cases configuration with
          | null =>
              exact ⟨coherent.options, older, coherent.initializationOptions,
                coherent.clientConfiguration⟩
          | _ => exact ⟨coherent.options, older, coherent.initializationOptions, rfl⟩
      | _ =>
          exact ⟨coherent.options, older, coherent.initializationOptions,
            coherent.clientConfiguration⟩

theorem coherent_clear (coherent : Coherent calls server) : Coherent calls server.clearCache :=
  ⟨coherent.options, fun _ member => absurd member List.not_mem_nil,
    coherent.initializationOptions, coherent.clientConfiguration⟩

theorem coherent_load {files : FileSystem} {call : Call}
    (coherent : Coherent ((files, call) :: calls) server) (directory : Path) :
    Coherent ((files, call) :: calls) (server.loadProject files directory).2 := by
  cases found : server.cache.find? (Taglib.projectRoot files directory) with
  | some project =>
      rw [Server.loadProject, Taglib.Cache.lookup_of_found found]
      exact ⟨coherent.options, coherent.loaded, coherent.initializationOptions,
        coherent.clientConfiguration⟩
  | none =>
      rw [Server.loadProject, Taglib.Cache.lookup_of_missing found]
      refine ⟨coherent.options, ?_, coherent.initializationOptions,
        coherent.clientConfiguration⟩
      intro entry member
      -- the new entry was loaded on the files of this very call
      rcases List.mem_append.mp member with earlier | added
      · exact coherent.loaded entry earlier
      · rw [List.mem_singleton.mp added]
        exact ⟨(files, call), List.mem_cons_self, rfl⟩

theorem coherent_quiet {files : FileSystem} {call : Call}
    (coherent : Coherent ((files, call) :: calls) server)
    (quiet : Server.Quiet files server next) : Coherent ((files, call) :: calls) next := by
  cases quiet with
  | documents documents =>
      exact ⟨coherent.options, coherent.loaded, coherent.initializationOptions,
        coherent.clientConfiguration⟩
  | loaded directory => exact coherent_load coherent directory
  | cleared => exact coherent_clear coherent

/-- Settings that ask for the same options leave the projects in place, and these
were loaded with the options that are in force again. -/
theorem coherent_reload (coherent : Coherent calls server) (files : FileSystem) :
    Coherent calls (server.reloadSettings files).1 := by
  rw [Server.reloadSettings, Server.applySettings, Taglib.Cache.setOptions]
  split
  · rename_i same
    exact ⟨same, coherent.loaded, coherent.initializationOptions, coherent.clientConfiguration⟩
  · exact ⟨rfl, fun _ member => absurd member List.not_mem_nil, coherent.initializationOptions,
      coherent.clientConfiguration⟩

theorem coherent_take {session : Session} (coherent : Coherent calls session.server)
    (files : FileSystem) (call : Call) :
    Coherent ((files, call) :: calls) (session.take files call).server := by
  have heard := coherent_hear coherent files call
  by_cases reloads : call.Reloads
  · rcases take_reloading reloads with next | next
    · rw [next]
      exact coherent_reload heard files
    · rw [next]
      exact coherent_clear (coherent_reload heard files)
  · rw [hear_quiet reloads] at heard
    exact coherent_quiet heard (take_quiet reloads)

end Step

theorem coherent_after (calls : Calls) : Coherent calls (after calls).server := by
  induction calls with
  | nil => exact ⟨rfl, fun _ member => absurd member List.not_mem_nil, rfl, rfl⟩
  | cons made earlier induction => exact coherent_take induction made.1 made.2

/-- A layer that was not sent and a layer that cannot be read are the same. -/
theorem decided_sent {Field : Type} (field : SettingsLayer → Option Field) (server : Server)
    (lower : List (Option SettingsLayer)) :
    decided field ((server.clientLayers.map fun sent => layerOfClient? sent.2).reverse ++ lower) =
      decided field ([server.clientConfiguration.bind layerOfClient?,
        server.initializationOptions.bind layerOfClient?] ++ lower) := by
  rw [Server.clientLayers]
  cases server.initializationOptions with
  | none =>
      cases server.clientConfiguration with
      | none => rfl
      | some configuration => rfl
  | some options =>
      cases server.clientConfiguration with
      | none => rfl
      | some configuration => rfl

theorem reload_resolves (server : Server) (files : FileSystem) :
    (server.reloadSettings files).1.settings.Resolves
      ([server.clientConfiguration.bind layerOfClient?,
        server.initializationOptions.bind layerOfClient?] ++ layersOfFiles files server.root) := by
  have resolved := load_settings_resolves files server.root server.clientLayers
  constructor
  · rw [← decided_sent]
    exact resolved.componentFiles
  · rw [← decided_sent]
    exact resolved.tagsDirs
  · rw [← decided_sent]
    exact resolved.installedTaglibs

theorem take_resolves {calls : Calls} {session : Session}
    (coherent : Coherent calls session.server) (files : FileSystem) {call : Call}
    (reloads : call.Reloads) :
    (session.take files call).server.settings.Resolves (sentLayers ((files, call) :: calls) ++
      layersOfFiles files (session.take files call).server.root) := by
  have heard := coherent_hear coherent files call
  have resolved := reload_resolves (session.server.hear files call) files
  rw [heard.clientConfiguration, heard.initializationOptions] at resolved
  rcases take_reloading reloads with next | next
  · rw [next]
    exact resolved
  · rw [next]
    exact resolved

/-- After all calls the cache goes with the settings. A reload makes the settings
what the layers of that moment decide, nothing else touches them, and a call that
makes the projects invalid leaves none of them. -/
theorem settings_coherent (calls : Calls) :
    Coherent calls (after calls).server ∧ ∀ files call,
      (call.Reloads → (after ((files, call) :: calls)).server.settings.Resolves
        (sentLayers ((files, call) :: calls) ++
          layersOfFiles files (after ((files, call) :: calls)).server.root)) ∧
      (¬ call.Reloads →
        (after ((files, call) :: calls)).server.settings = (after calls).server.settings ∧
        (after ((files, call) :: calls)).server.root = (after calls).server.root ∧
        (after ((files, call) :: calls)).server.initializationOptions =
          (after calls).server.initializationOptions ∧
        (after ((files, call) :: calls)).server.clientConfiguration =
          (after calls).server.clientConfiguration) ∧
      (call.Clears → (after ((files, call) :: calls)).server.cache.lookups = []) := by
  have coherent := coherent_after calls
  refine ⟨coherent, fun files call => ⟨?_, ?_, ?_⟩⟩
  · exact take_resolves coherent files
  · intro quiet
    exact Server.quiet_settings (take_quiet quiet)
  · exact take_clearing

def sampleFiles : FileSystem :=
  { entries := [(["w"], .directory), (["w", "page.marko"], .file [])]
    workingDirectory := ⟨true, []⟩
    configDirectory := none }

/-- The configuration file sets a field that the client sets too. -/
def sampleConfigured : FileSystem :=
  { sampleFiles with
    entries := (["w", configFileName],
      .file (Text.bytes "componentFiles = [\"page.js\"]\ntagsDirs = []\n")) ::
        sampleFiles.entries }

/-- The options of the initialization cannot be read, and the last configuration
is null. -/
def sampleCalls : Calls :=
  [(sampleFiles, .notification (.didChangeConfiguration .null)),
    (sampleFiles, .request (.completion "file:///w/page.marko")),
    (sampleFiles, .notification (.didChangeConfiguration
      (.object [("marko", .object [("tagsDirs", .array [.string "ui"])])]))),
    (sampleFiles, .request (.start ⟨[], none, some "/w"⟩
      (some (.object [("installedTaglibs", .bool false), ("tagsDirs", .bool true)]))))]

def sampleWatched : Call := .notification (.didChangeWatchedFiles ["file:///w/marko-ls.toml"])

theorem settings_coherent_watched :
    sampleWatched.Reloads ∧ sampleWatched.Clears ∧
      (after ((sampleConfigured, sampleWatched) :: sampleCalls)).server.settings =
        ⟨["page.js"], ["ui"], true⟩ ∧
      (after ((sampleConfigured, sampleWatched) :: sampleCalls)).server.cache.lookups = [] := by
  have config : IsConfigPath (Path.ofText "/w/marko-ls.toml") := by
    rw [IsConfigPath]
    decide +kernel
  have given : Server.pathOfUri? "file:///w/marko-ls.toml" =
      some (Path.ofText "/w/marko-ls.toml") := by decide +kernel
  have reloads : sampleWatched.Reloads := ⟨_, List.mem_singleton_self _, _, given, config⟩
  have clears : sampleWatched.Clears := ⟨_, List.mem_singleton_self _, _, given, .inr config⟩
  obtain ⟨resolved, _, cleared⟩ := (settings_coherent sampleCalls).2 sampleConfigured sampleWatched
  refine ⟨reloads, clears, resolves_unique (resolved reloads) ⟨?_, ?_, ?_⟩, cleared clears⟩
  · decide +kernel
  · decide +kernel
  · decide +kernel

end TemplateServer.Session
