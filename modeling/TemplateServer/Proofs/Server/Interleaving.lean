import TemplateServer.Proofs.Server.Calls

/-!
Configurations that reach a server while it still handles earlier ones. A handler
keeps what the client sent and works the settings out; then it tells the client what
it did, and only after that it puts them into effect. In between other handlers may
run. So the settings at the end are those of the handler that ended last, whatever
the client has sent since that handler began.
-/

namespace TemplateServer

inductive ConfigurationStep where
  /-- A handler keeps the configuration and works the settings out. -/
  | store (handler : Nat) (configuration : Json)
  /-- The handler puts these settings into effect and gives the projects up. -/
  | apply (handler : Nat)

/-- A server and the handlers that are suspended, each with the settings that it is
about to put into effect. -/
structure Interleaving where
  server : Server
  suspended : List (Nat × Settings)

namespace Interleaving

def take? (state : Interleaving) (files : FileSystem) : ConfigurationStep → Option Interleaving
  | .store handler configuration =>
      if state.suspended.any (·.1 == handler) then none
      else
        let stored := state.server.storeConfiguration configuration
        some ⟨stored, (handler, (stored.settingsOutcome files).settings) :: state.suspended⟩
  | .apply handler =>
      (state.suspended.find? (·.1 == handler)).map fun (_, settings) =>
        ⟨(state.server.applySettings settings).clearCache,
          state.suspended.filter (·.1 != handler)⟩

/-- What has become of a server after some steps, the latest one first; none if one of
them was impossible. The files stay as they are. -/
def after? (files : FileSystem) (server : Server) : List ConfigurationStep → Option Interleaving
  | [] => some ⟨server, []⟩
  | step :: earlier => (after? files server earlier).bind fun state => state.take? files step

/-- A handler that nothing comes between is the handling of a notification. -/
theorem after_undisturbed (files : FileSystem) (server : Server) (handler : Nat)
    (configuration : Json) :
    after? files server [.apply handler, .store handler configuration] =
      some ⟨(server.didChangeConfiguration files configuration).1, []⟩ := by
  simp [after?, take?, Server.didChangeConfiguration, Server.reloadSettings]

/-- All that a step can do. -/
theorem take_cases {state next : Interleaving} {files : FileSystem} {step : ConfigurationStep}
    (taken : state.take? files step = some next) :
    (∃ handler configuration, step = .store handler configuration ∧
        next = ⟨state.server.storeConfiguration configuration,
          (handler, ((state.server.storeConfiguration configuration).settingsOutcome
            files).settings) :: state.suspended⟩) ∨
      ∃ handler settings, step = .apply handler ∧ (handler, settings) ∈ state.suspended ∧
        next = ⟨(state.server.applySettings settings).clearCache,
          state.suspended.filter (·.1 != handler)⟩ := by
  cases step with
  | store handler configuration =>
      rw [take?] at taken
      split at taken
      · cases taken
      · cases taken
        exact .inl ⟨handler, configuration, rfl, rfl⟩
  | apply handler =>
      rw [take?] at taken
      obtain ⟨⟨other, settings⟩, found, rfl⟩ := Option.map_eq_some_iff.mp taken
      have same : other = handler := beq_iff_eq.mp (List.find?_some found :)
      exact .inr ⟨handler, settings, rfl, same ▸ List.mem_of_find?_eq_some found, rfl⟩

def stored (first : Option Json) : List ConfigurationStep → Option Json
  | [] => first
  | .store _ .null :: earlier => stored first earlier
  | .store _ configuration :: _ => some configuration
  | .apply _ :: earlier => stored first earlier

def asked (files : FileSystem) (server : Server) (steps : List ConfigurationStep) : Settings :=
  ({ server with clientConfiguration := stored server.clientConfiguration steps }.settingsOutcome
    files).settings

theorem stored_of_silent (first : Option Json) {later : List ConfigurationStep}
    (silent : ∀ handler configuration, .store handler configuration ∈ later →
      configuration = .null) (earlier : List ConfigurationStep) :
    stored first (later ++ earlier) = stored first earlier := by
  induction later with
  | nil => rfl
  | cons step later induction =>
      have rest := induction fun handler configuration member =>
        silent handler configuration (List.mem_cons_of_mem _ member)
      cases step with
      | store handler configuration =>
          cases silent handler configuration List.mem_cons_self
          exact rest
      | apply handler => exact rest

theorem asked_of_silent {files : FileSystem} {server : Server} (handler : Nat)
    {later earlier : List ConfigurationStep}
    (silent : ∀ handler configuration, .store handler configuration ∈ later →
      configuration = .null) :
    asked files server (.apply handler :: (later ++ earlier)) = asked files server earlier := by
  have same : stored server.clientConfiguration (.apply handler :: (later ++ earlier)) =
      stored server.clientConfiguration earlier := stored_of_silent _ silent earlier
  rw [asked, asked, same]

/-- A handler that began, and has worked out what was asked for then. -/
def Began (files : FileSystem) (server : Server) (steps : List ConfigurationStep) (handler : Nat)
    (settings : Settings) : Prop :=
  ∃ later configuration earlier,
    steps = later ++ .store handler configuration :: earlier ∧ .apply handler ∉ later ∧
      settings = asked files server (.store handler configuration :: earlier)

structure Follows (files : FileSystem) (server : Server) (steps : List ConfigurationStep)
    (state : Interleaving) : Prop where
  root : state.server.root = server.root
  initializationOptions : state.server.initializationOptions = server.initializationOptions
  clientConfiguration :
    state.server.clientConfiguration = stored server.clientConfiguration steps
  suspended : ∀ entry ∈ state.suspended, Began files server steps entry.1 entry.2

section Step

variable {files : FileSystem} {server : Server} {steps : List ConfigurationStep}
  {state next : Interleaving}

theorem began_earlier {step : ConfigurationStep} {handler : Nat} {settings : Settings}
    (began : Began files server steps handler settings) (going : step ≠ .apply handler) :
    Began files server (step :: steps) handler settings := by
  obtain ⟨later, configuration, earlier, split, suspended, same⟩ := began
  refine ⟨step :: later, configuration, earlier, ?_, ?_, same⟩
  · rw [split, List.cons_append]
  · rw [List.mem_cons, not_or]
    exact ⟨going.symm, suspended⟩

/-- Settings are worked out from what the server knows of the client, and steps change
no other part of that than the configuration. -/
theorem outcome_of_follows (follows : Follows files server steps state) :
    (state.server.settingsOutcome files).settings = asked files server steps := by
  simp only [asked, Server.settingsOutcome, Server.clientLayers]
  rw [follows.root, follows.initializationOptions, follows.clientConfiguration]

theorem follows_store (follows : Follows files server steps state) (handler : Nat)
    (configuration : Json) :
    Follows files server (.store handler configuration :: steps)
      ⟨state.server.storeConfiguration configuration,
        (handler, ((state.server.storeConfiguration configuration).settingsOutcome
          files).settings) :: state.suspended⟩ := by
  have kept : Follows files server (.store handler configuration :: steps)
      ⟨state.server.storeConfiguration configuration, state.suspended⟩ := by
    have older : ∀ entry ∈ state.suspended,
        Began files server (.store handler configuration :: steps) entry.1 entry.2 :=
      fun entry member => began_earlier (follows.suspended entry member) nofun
    cases configuration with
    | null =>
        exact ⟨follows.root, follows.initializationOptions, follows.clientConfiguration, older⟩
    | _ => exact ⟨follows.root, follows.initializationOptions, rfl, older⟩
  refine ⟨kept.root, kept.initializationOptions, kept.clientConfiguration, ?_⟩
  intro entry member
  rcases List.mem_cons.mp member with rfl | earlier
  · exact ⟨[], configuration, steps, rfl, List.not_mem_nil, outcome_of_follows kept⟩
  · exact kept.suspended entry earlier

theorem follows_apply (follows : Follows files server steps state) (handler : Nat)
    (settings : Settings) :
    Follows files server (.apply handler :: steps)
      ⟨(state.server.applySettings settings).clearCache,
        state.suspended.filter (·.1 != handler)⟩ := by
  refine ⟨follows.root, follows.initializationOptions, follows.clientConfiguration, ?_⟩
  intro entry member
  obtain ⟨earlier, other⟩ := List.mem_filter.mp member
  refine began_earlier (follows.suspended entry earlier) fun same => ?_
  cases same
  exact absurd other (by simp)

theorem follows_take (follows : Follows files server steps state) {step : ConfigurationStep}
    (taken : state.take? files step = some next) : Follows files server (step :: steps) next := by
  obtain ⟨handler, configuration, rfl, rfl⟩ | ⟨handler, settings, rfl, -, rfl⟩ := take_cases taken
  · exact follows_store follows handler configuration
  · exact follows_apply follows handler settings

theorem follows_after (ran : after? files server steps = some state) :
    Follows files server steps state := by
  induction steps generalizing state with
  | nil =>
      cases ran
      exact ⟨rfl, rfl, rfl, fun _ member => absurd member List.not_mem_nil⟩
  | cons step earlier induction =>
      obtain ⟨before, first, taken⟩ := Option.bind_eq_some_iff.mp ran
      exact follows_take (induction first) taken

end Step

theorem cache_of_applied (server : Server) (settings : Settings) :
    ((server.applySettings settings).clearCache).cache =
      .empty (Taglib.DiscoveryOptions.ofSettings settings) := by
  rw [Server.clearCache, Server.applySettings, Taglib.Cache.setOptions]
  split
  · rename_i same
    simp [Taglib.Cache.clear, Taglib.Cache.empty, same]
  · rfl

/-- Once all handlers have ended, the cache goes with the settings, and the settings
are those that were asked for when the handler that ended last began. So they are the
ones that are asked for now, unless another configuration has come since. -/
theorem last_applied_configuration_wins (files : FileSystem) (server : Server)
    (steps : List ConfigurationStep) (final : Interleaving)
    (ran : after? files server steps = some final) (ended : final.suspended = [])
    (handled : steps ≠ []) :
    final.server.cache = .empty (Taglib.DiscoveryOptions.ofSettings final.server.settings) ∧
      final.server.root = server.root ∧
      final.server.initializationOptions = server.initializationOptions ∧
      final.server.clientConfiguration = stored server.clientConfiguration steps ∧
      ∃ handler later configuration earlier,
        steps = .apply handler :: (later ++ .store handler configuration :: earlier) ∧
        .apply handler ∉ later ∧
        final.server.settings = asked files server (.store handler configuration :: earlier) ∧
        ((∀ other sent, .store other sent ∈ later → sent = .null) →
          final.server.settings = (final.server.settingsOutcome files).settings) := by
  have follows := follows_after ran
  obtain ⟨step, before, rfl⟩ := List.exists_cons_of_ne_nil handled
  obtain ⟨state, first, taken⟩ := Option.bind_eq_some_iff.mp ran
  obtain ⟨handler, configuration, rfl, rfl⟩ | ⟨handler, settings, rfl, member, rfl⟩ :=
    take_cases taken
  · cases ended
  · have began : Began files server before handler settings :=
      (follows_after first).suspended _ member
    obtain ⟨later, configuration, earlier, rfl, suspended, rfl⟩ := began
    refine ⟨cache_of_applied _ _, follows.root, follows.initializationOptions,
      follows.clientConfiguration, handler, later, configuration, earlier, rfl, suspended, rfl,
      fun silent => ?_⟩
    rw [outcome_of_follows follows, asked_of_silent handler silent]
    rfl

/-- While the first configuration is being handled, a null comes and is done with.
-/
def sampleSteps : List ConfigurationStep :=
  [.apply 1, .apply 2, .store 2 .null, .store 1 (.object [("tagsDirs", .array [.string "ui"])])]

def sampleFiles : FileSystem := ⟨[(["w"], .directory)], ⟨true, []⟩, none⟩

def sampleCalls : Calls := [(sampleFiles, .request (.start ⟨[], none, some "/w"⟩ none))]

def sampleServer : Server := (Session.after sampleCalls).server

theorem last_applied_configuration_wins_null : ∃ final,
    after? sampleFiles sampleServer sampleSteps = some final ∧ final.suspended = [] ∧
      final.server.settings = (final.server.settingsOutcome sampleFiles).settings ∧
      final.server.settings.tagsDirs = ["ui"] := by
  obtain ⟨final, ran⟩ := Option.isSome_iff_exists.mp
    (show (after? sampleFiles sampleServer sampleSteps).isSome = true by decide +kernel)
  have ended : (after? sampleFiles sampleServer sampleSteps).map (·.suspended) = some [] := by
    decide +kernel
  have turned : (after? sampleFiles sampleServer sampleSteps).map
      (·.server.settings.tagsDirs) = some ["ui"] := by decide +kernel
  rw [ran] at ended turned
  obtain ⟨-, -, -, -, handler, later, configuration, earlier, split, -, -, undisturbed⟩ :=
    last_applied_configuration_wins sampleFiles sampleServer sampleSteps final ran
      (Option.some.inj ended) nofun
  refine ⟨final, ran, Option.some.inj ended, undisturbed ?_, Option.some.inj turned⟩
  -- the handler that ended last is the first one, and only the other began behind it
  obtain ⟨first, rest⟩ := List.cons.inj split
  cases first
  rcases later with _ | ⟨second, _ | ⟨third, _ | ⟨fourth, more⟩⟩⟩
  · cases rest
  · cases rest
  · cases rest
    intro other sent member
    simp only [List.mem_cons, reduceCtorEq, ConfigurationStep.store.injEq, List.not_mem_nil,
      or_false, false_or] at member
    exact member.2
  · simp at rest

/-- The second configuration has nothing to tell the client of, so it overtakes the
first one. -/
def overtakenSteps : List ConfigurationStep :=
  [.apply 1, .apply 2, .store 2 (.object [("marko", .null)]),
    .store 1 (.object [("tagsDirs", .array [.string "ui"])])]

theorem overtaken_configuration_wins :
    ¬ ∀ (calls : Calls) (files : FileSystem) (steps : List ConfigurationStep)
      (final : Interleaving), steps ≠ [] →
      after? files (Session.after calls).server steps = some final → final.suspended = [] →
      final.server.settings = (final.server.settingsOutcome files).settings ∧
        final.server.cache.options =
          Taglib.DiscoveryOptions.ofSettings final.server.settings := by
  intro wins
  obtain ⟨final, ran⟩ := Option.isSome_iff_exists.mp
    (show (after? sampleFiles sampleServer overtakenSteps).isSome = true by decide +kernel)
  have ended : (after? sampleFiles sampleServer overtakenSteps).map (·.suspended) =
      some [] := by decide +kernel
  have stale : (after? sampleFiles sampleServer overtakenSteps).map (fun final =>
      decide (final.server.settings = (final.server.settingsOutcome sampleFiles).settings)) =
        some false := by decide +kernel
  rw [ran] at ended stale
  have latest :=
    (wins sampleCalls sampleFiles overtakenSteps final nofun ran (Option.some.inj ended)).1
  exact absurd latest (of_decide_eq_false (Option.some.inj stale))

end Interleaving

end TemplateServer
