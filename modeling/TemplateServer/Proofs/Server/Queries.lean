import TemplateServer.Proofs.Server.Coherence
import TemplateServer.Proofs.Taglib.Spelling

/-!
Requests that only look something up. Such a request leaves nothing behind but
projects in the cache. What any call does to a server does not depend on the
projects there, apart from what becomes of these, and an answer depends on no more
of them than what the tags of one project show.
-/

namespace TemplateServer

namespace Protocol.Request

def IsQuery : Request → Prop
  | .definition _ _ => True
  | .completion _ => True
  | .resolve _ => True
  | _ => False

def directory? : Request → Option Path
  | .definition uri _ => (Server.pathOfUri? uri).map Definition.directoryOf
  | .completion uri => (Server.pathOfUri? uri).bind Path.parent?
  | _ => none

end Protocol.Request

theorem Path.of_bytes_slash (rest : List UInt8) :
    (Path.ofBytes (0x2F :: rest)).absolute = true := by
  cases rest with
  | nil => rfl
  | cons byte rest => rfl

theorem Url.file_path_from_root {url : Url} {path : Path} (found : url.filePath? = some path) :
    path.absolute = true ∨ path = ⟨false, []⟩ := by
  rw [Url.filePath?] at found
  split at found
  · rename_i names _
    split at found
    · cases found
      cases names with
      | nil => exact .inr rfl
      | cons name names =>
          rw [List.flatMap_cons, List.cons_append, List.cons_append]
          exact .inl (Path.of_bytes_slash _)
    · cases found
  · cases found

theorem Server.path_of_uri_from_root {uri : String} {path : Path}
    (found : Server.pathOfUri? uri = some path) : path.absolute = true ∨ path = ⟨false, []⟩ := by
  obtain ⟨url, -, given⟩ := Option.bind_eq_some_iff.mp found
  exact Url.file_path_from_root given

theorem Protocol.Request.directory_settled {request : Request} {directory : Path}
    (asks : request.directory? = some directory) : directory.Settled := by
  have above : ∀ {path parent : Path}, path.absolute = true ∨ path = ⟨false, []⟩ →
      path.parent? = some parent → parent.Settled := by
    intro path parent fromRoot found
    rcases fromRoot with absolute | rfl
    · exact Path.parent_settled absolute found
    · cases found
  cases request with
  | definition uri position =>
      obtain ⟨path, given, rfl⟩ := Option.map_eq_some_iff.mp asks
      rw [Definition.directoryOf]
      cases found : path.parent? with
      | none => exact .inr rfl
      | some parent => exact above (Server.path_of_uri_from_root given) found
  | completion uri =>
      obtain ⟨path, given, found⟩ := Option.bind_eq_some_iff.mp asks
      exact above (Server.path_of_uri_from_root given) found
  | _ => cases asks

theorem Taglib.project_root_settled (files : FileSystem) {directory : Path}
    (settled : directory.Settled) : (projectRoot files directory).Settled := by
  rw [projectRoot]
  cases found : directory.ancestors.find? fun candidate =>
      files.isFile (candidate.child packageFileName) with
  | none => exact settled
  | some root => exact Path.ancestors_settled settled root (List.mem_of_find?_eq_some found)

namespace Server

def holding (server : Server) (lookups : List (Path × Taglib.Lookup)) : Server :=
  { server with cache := { server.cache with lookups := lookups } }

section Holding

variable (server : Server) (files : FileSystem) (lookups : List (Path × Taglib.Lookup))

theorem reload_holding : ∃ others,
    ((server.holding lookups).reloadSettings files).1 =
      (server.reloadSettings files).1.holding others := by
  let settings := (server.settingsOutcome files).settings
  have options : ∃ others,
      Taglib.Cache.setOptions ⟨server.cache.options, lookups⟩ (.ofSettings settings) =
        { server.cache.setOptions (.ofSettings settings) with lookups := others } := by
    rw [Taglib.Cache.setOptions, Taglib.Cache.setOptions]
    split
    · exact ⟨lookups, rfl⟩
    · exact ⟨[], rfl⟩
  obtain ⟨others, changed⟩ := options
  exact ⟨others, congrArg (fun cache => { server with settings := settings, cache := cache })
    changed⟩

theorem start_holding (hints : WorkspaceHints) (options : Option Json) : ∃ others,
    ((server.holding lookups).start files hints options).1 =
      (server.start files hints options).1.holding others := by
  simp only [start]
  cases workspaceRoot? files hints with
  | none => exact reload_holding { server with initializationOptions := options } files lookups
  | some root =>
      exact reload_holding { server with root := some root.1, initializationOptions := options }
        files lookups

theorem did_open_holding (uri text : String) (version : Int) (languageId : String) :
    (server.holding lookups).didOpen uri text version languageId =
      (server.didOpen uri text version languageId).holding lookups := by
  rw [didOpen, didOpen]
  cases Url.parse? uri with
  | none => rfl
  | some url => rfl

theorem did_change_holding (uri : String) (version : Int) (changes : List Text.Change) :
    ((server.holding lookups).didChange uri version changes).1 =
      (server.didChange uri version changes).1.holding lookups := by
  have documents : (server.holding lookups).documents = server.documents := rfl
  rw [didChange, didChange, documents]
  cases Url.parse? uri with
  | none => rfl
  | some url =>
      dsimp only
      cases server.documents.change? url changes (some version) with
      | none => rfl
      | some documents => rfl

theorem did_close_holding (uri : String) :
    (server.holding lookups).didClose uri = (server.didClose uri).holding lookups := by
  rw [didClose, didClose]
  cases Url.parse? uri with
  | none => rfl
  | some url => rfl

theorem did_change_configuration_holding (configuration : Json) : ∃ others,
    ((server.holding lookups).didChangeConfiguration files configuration).1 =
      (server.didChangeConfiguration files configuration).1.holding others := by
  have stored : (server.holding lookups).storeConfiguration configuration =
      (server.storeConfiguration configuration).holding lookups := by
    cases configuration with
    | _ => rfl
  obtain ⟨others, reloaded⟩ :=
    (server.storeConfiguration configuration).reload_holding files lookups
  refine ⟨[], ?_⟩
  simp only [didChangeConfiguration, stored, reloaded]
  rfl

theorem did_change_watched_files_holding (uris : List String) : ∃ others,
    ((server.holding lookups).didChangeWatchedFiles files uris).1 =
      (server.didChangeWatchedFiles files uris).1.holding others := by
  obtain ⟨others, reloaded⟩ := server.reload_holding files lookups
  by_cases config : NamesFile IsConfigPath uris
  · refine ⟨[], ?_⟩
    rw [watched_config config, watched_config config, reloaded]
    rfl
  · by_cases source : NamesFile
        (fun path => isTaglibSource path = true ∨ IsConfigPath path) uris
    · refine ⟨[], ?_⟩
      rw [watched_source config source, watched_source config source]
      rfl
    · refine ⟨lookups, ?_⟩
      rw [watched_unrelated source, watched_unrelated source]

theorem load_project_holding (directory : Path) :
    (server.loadProject files directory).2 =
      server.holding (server.cache.lookup files directory).2.lookups := by
  cases found : server.cache.find? (Taglib.projectRoot files directory) with
  | some project => rw [loadProject, Taglib.Cache.lookup_of_found found, holding]
  | none => rw [loadProject, Taglib.Cache.lookup_of_missing found, holding]

end Holding

/-- A definition request loads the project of its document or nothing. -/
theorem goto_definition_cases (server : Server) (files : FileSystem) (uri : String)
    (position : Text.Position) :
    (server.gotoDefinition files uri position).1 = server ∨
      ∃ path, pathOfUri? uri = some path ∧ (server.gotoDefinition files uri position).1 =
        (server.loadProject files (Definition.directoryOf path)).2 := by
  rw [gotoDefinition, pathOfUri?]
  cases Url.parse? uri with
  | none => exact .inl rfl
  | some url =>
      rw [Option.bind_some]
      dsimp only
      split
      · exact .inl rfl
      · exact .inl rfl
      · rename_i path document given stored
        split
        · exact .inl rfl
        · rename_i offset found
          by_cases loads : loadsFor path document.text offset = true
          · refine .inr ⟨path, given, ?_⟩
            rw [if_pos loads]
            split
            · rfl
            · rfl
          · left
            rw [if_neg loads]
            split
            · rfl
            · rfl

/-- The path under which the cache holds the project of a directory, once it has been
looked up. -/
def heldRoot (server : Server) (files : FileSystem) (directory : Path) : Path :=
  (server.cache.lookup files directory).1.root

def tagsSeen (server : Server) (files : FileSystem) (directory : Path) :
    Dictionary Taglib.TagSight :=
  Dictionary.mapValues (Taglib.TagDefinition.sight files)
    (server.cache.lookup files directory).1.tags

section Answers

variable (server : Server) (files : FileSystem) (lookups : List (Path × Taglib.Lookup))

theorem goto_definition_alike (uri : String) (position : Text.Position)
    (alike : ∀ path, pathOfUri? uri = some path →
      server.tagsSeen files (Definition.directoryOf path) =
        (server.holding lookups).tagsSeen files (Definition.directoryOf path)) :
    (server.gotoDefinition files uri position).2 =
      ((server.holding lookups).gotoDefinition files uri position).2 := by
  have documents : (server.holding lookups).documents = server.documents := rfl
  have settings : (server.holding lookups).settings = server.settings := rfl
  rw [pathOfUri?] at alike
  rw [gotoDefinition, gotoDefinition, documents, settings]
  cases parsed : Url.parse? uri with
  | none => rfl
  | some url =>
      rw [parsed, Option.bind_some] at alike
      dsimp only
      split
      · rfl
      · rfl
      · rename_i path document given stored
        cases Text.offset? document.text position with
        | none => rfl
        | some offset =>
            dsimp only [loadProject]
            rw [Definition.at_offset_same (alike path given)]
            split
            · rfl
            · rfl

theorem completion_alike (uri : String)
    (alike : ∀ directory, (pathOfUri? uri).bind Path.parent? = some directory →
      server.tagsSeen files directory = (server.holding lookups).tagsSeen files directory) :
    (server.completion files uri).2 = ((server.holding lookups).completion files uri).2 := by
  rw [completion, completion]
  cases given : (pathOfUri? uri).bind Path.parent? with
  | none => rfl
  | some directory =>
      exact congrArg (fun infos => some (completionList infos))
        (Taglib.sorted_infos_same (alike directory given))

end Answers

end Server

namespace Session

def holding (session : Session) (lookups : List (Path × Taglib.Lookup)) : Session :=
  session.withServer (session.server.holding lookups)

section Queries

variable (session : Session) (files : FileSystem)

/-- All that a query can do: it leaves everything as it is, or it loads the project
that it is about. -/
theorem query_cases {request : Protocol.Request} (query : request.IsQuery) :
    (session.answer files request).session = session ∨
      ∃ directory, request.directory? = some directory ∧
        (session.answer files request).session =
          session.withServer (session.server.loadProject files directory).2 := by
  cases request with
  | start => exact query.elim
  | shutdown => exact query.elim
  | resolve => exact .inl rfl
  | completion uri =>
      simp only [answer, Server.completion, Protocol.Request.directory?]
      cases (Server.pathOfUri? uri).bind Path.parent? with
      | none => exact .inl rfl
      | some directory => exact .inr ⟨directory, rfl, rfl⟩
  | definition uri position =>
      rcases session.server.goto_definition_cases files uri position with same | found
      · exact .inl (congrArg session.withServer same)
      · obtain ⟨path, given, loaded⟩ := found
        exact .inr ⟨_, congrArg (Option.map Definition.directoryOf) given,
          congrArg session.withServer loaded⟩

/-- A query changes nothing but the projects in the cache. -/
theorem query_holding {request : Protocol.Request} (query : request.IsQuery) :
    ∃ lookups, (session.answer files request).session = session.holding lookups := by
  rcases session.query_cases files query with same | ⟨directory, -, loaded⟩
  · exact ⟨session.server.cache.lookups, same⟩
  · exact ⟨_, by rw [loaded, Server.load_project_holding, holding]⟩

theorem take_holding (lookups : List (Path × Taglib.Lookup)) (call : Call) : ∃ others,
    (session.holding lookups).take files call = (session.take files call).holding others := by
  have queried : ∀ {request : Protocol.Request}, request.IsQuery → ∃ others,
      (session.holding lookups).take files (.request request) =
        (session.take files (.request request)).holding others := by
    intro request query
    obtain ⟨others, held⟩ := (session.holding lookups).query_holding files query
    obtain ⟨own, kept⟩ := session.query_holding files query
    exact ⟨others, by rw [take, take, held, kept]; rfl⟩
  cases call with
  | request request =>
      cases request with
      | start hints options =>
          obtain ⟨others, started⟩ := session.server.start_holding files lookups hints options
          exact ⟨others, congrArg (Session.mk .running) started⟩
      | shutdown => exact ⟨[], rfl⟩
      | definition => exact queried trivial
      | completion => exact queried trivial
      | resolve => exact queried trivial
  | notification notification =>
      cases notification with
      | initialized => exact ⟨lookups, rfl⟩
      | didOpen uri text version languageId =>
          exact ⟨lookups, congrArg session.withServer
            (session.server.did_open_holding lookups uri text version languageId)⟩
      | didChange uri version changes =>
          exact ⟨lookups, congrArg session.withServer
            (session.server.did_change_holding lookups uri version changes)⟩
      | didClose uri =>
          exact ⟨lookups, congrArg session.withServer
            (session.server.did_close_holding lookups uri)⟩
      | didChangeConfiguration configuration =>
          obtain ⟨others, changed⟩ :=
            session.server.did_change_configuration_holding files lookups configuration
          exact ⟨others, congrArg session.withServer changed⟩
      | didChangeWatchedFiles uris =>
          obtain ⟨others, changed⟩ :=
            session.server.did_change_watched_files_holding files lookups uris
          exact ⟨others, congrArg session.withServer changed⟩

end Queries

section Keys

/-- Projects are held under settled paths only, so a root has few spellings. -/
def KeysSettled (server : Server) : Prop := ∀ entry ∈ server.cache.lookups, entry.1.Settled

theorem keys_settled_load {server : Server} (settled : KeysSettled server) (files : FileSystem)
    {directory : Path} (root : directory.Settled) :
    KeysSettled (server.loadProject files directory).2 := by
  cases found : server.cache.find? (Taglib.projectRoot files directory) with
  | some project =>
      rw [Server.loadProject, Taglib.Cache.lookup_of_found found]
      exact settled
  | none =>
      rw [Server.loadProject, Taglib.Cache.lookup_of_missing found]
      intro entry member
      rcases List.mem_append.mp member with earlier | added
      · exact settled entry earlier
      · rw [List.mem_singleton.mp added]
        exact Taglib.project_root_settled files root

theorem keys_settled_clear (server : Server) : KeysSettled server.clearCache :=
  fun _ member => absurd member List.not_mem_nil

theorem keys_settled_reload {server : Server} (settled : KeysSettled server) (files : FileSystem) :
    KeysSettled (server.reloadSettings files).1 := by
  rw [Server.reloadSettings, Server.applySettings, Taglib.Cache.setOptions]
  split
  · exact settled
  · exact fun _ member => absurd member List.not_mem_nil

theorem keys_settled_take {session : Session} (settled : KeysSettled session.server)
    (files : FileSystem) (call : Call) : KeysSettled (session.take files call).server := by
  have queried : ∀ {request : Protocol.Request}, request.IsQuery →
      KeysSettled (session.take files (.request request)).server := by
    intro request query
    rw [take]
    rcases session.query_cases files query with same | ⟨directory, asks, loaded⟩
    · rw [same]
      exact settled
    · rw [loaded]
      exact keys_settled_load settled files (Protocol.Request.directory_settled asks)
  cases call with
  | request request =>
      cases request with
      | start hints options =>
          refine keys_settled_reload ?_ files
          cases Server.workspaceRoot? files hints with
          | none => exact settled
          | some root => exact settled
      | shutdown => exact keys_settled_clear session.server
      | definition => exact queried trivial
      | completion => exact queried trivial
      | resolve => exact queried trivial
  | notification notification =>
      cases notification with
      | initialized => exact settled
      | didOpen uri text version languageId =>
          change KeysSettled (session.server.didOpen uri text version languageId)
          rw [Server.didOpen]
          split
          · exact settled
          · exact settled
      | didChange uri version changes =>
          change KeysSettled (session.server.didChange uri version changes).1
          rw [Server.didChange]
          split
          · exact settled
          · split
            · exact settled
            · exact settled
      | didClose uri =>
          change KeysSettled (session.server.didClose uri)
          rw [Server.didClose]
          split
          · exact settled
          · exact settled
      | didChangeConfiguration => exact keys_settled_clear _
      | didChangeWatchedFiles uris =>
          change KeysSettled (session.server.didChangeWatchedFiles files uris).1
          by_cases config : NamesFile IsConfigPath uris
          · rw [Server.watched_config config]
            exact keys_settled_clear _
          · by_cases source : NamesFile
                (fun path => Server.isTaglibSource path = true ∨ IsConfigPath path) uris
            · rw [Server.watched_source config source]
              exact keys_settled_clear _
            · rw [Server.watched_unrelated source]
              exact settled

theorem keys_settled_after (calls : Calls) : KeysSettled (after calls).server := by
  induction calls with
  | nil => exact fun _ member => absurd member List.not_mem_nil
  | cons made earlier induction => exact keys_settled_take induction made.1 made.2

end Keys

theorem answer_alike (session : Session) (files : FileSystem)
    (lookups : List (Path × Taglib.Lookup)) (request : Protocol.Request)
    (alike : ∀ directory, request.directory? = some directory →
      session.server.tagsSeen files directory =
        (session.holding lookups).server.tagsSeen files directory) :
    (session.answer files request).reply = ((session.holding lookups).answer files request).reply ∧
      (session.answer files request).messages =
        ((session.holding lookups).answer files request).messages := by
  cases request with
  | start hints options =>
      refine ⟨rfl, ?_⟩
      simp only [answer, Server.start]
      cases Server.workspaceRoot? files hints with
      | none => rfl
      | some root => rfl
  | shutdown => exact ⟨rfl, rfl⟩
  | resolve => exact ⟨rfl, rfl⟩
  | completion uri =>
      have same := session.server.completion_alike files lookups uri alike
      refine ⟨?_, rfl⟩
      simp only [answer, holding, withServer]
      rw [same]
  | definition uri position =>
      have same := session.server.goto_definition_alike files lookups uri position (by
        intro path given
        exact alike _ (congrArg (Option.map Definition.directoryOf) given))
      simp only [answer, holding, withServer, same, and_self]

end Session

end TemplateServer
