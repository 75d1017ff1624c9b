import TemplateServer.Server.Session

/-!
The calls that reach a server, and all that each of them can do to it. A call may
come at any time and in any order, and files may change before every one. Few
calls say something about the workspace or the settings of the client, and few
make the server work its settings out anew. Of all others the documents are the
only thing that can change, apart from the projects that the cache holds.
-/

namespace TemplateServer

inductive Call where
  | request (request : Protocol.Request)
  | notification (notification : Protocol.Notification)

/-- The calls that have been made, the latest one first, each with the files as
they were at that moment. -/
abbrev Calls := List (FileSystem × Call)

namespace Session

def take (session : Session) (files : FileSystem) : Call → Session
  | .request request => (session.answer files request).session
  | .notification notification => (session.accept files notification).1

def after : Calls → Session
  | [] => initial
  | (files, call) :: earlier => (after earlier).take files call

end Session

def NamesFile (kind : Path → Prop) (uris : List String) : Prop :=
  ∃ uri ∈ uris, ∃ path, Server.pathOfUri? uri = some path ∧ kind path

def IsConfigPath (path : Path) : Prop := path.fileName? = some (.name configFileName)

namespace Call

/-- The calls that change what the settings are worked out from, as far as the
server is told of it. -/
def Reloads : Call → Prop
  | .request (.start _ _) => True
  | .notification (.didChangeConfiguration _) => True
  | .notification (.didChangeWatchedFiles uris) => NamesFile IsConfigPath uris
  | _ => False

def Clears : Call → Prop
  | .request .shutdown => True
  | .notification (.didChangeConfiguration _) => True
  | .notification (.didChangeWatchedFiles uris) =>
      NamesFile (fun path => Server.isTaglibSource path = true ∨ IsConfigPath path) uris
  | _ => False

end Call

theorem any_path_iff (test : Path → Bool) (uris : List String) :
    (uris.filterMap Server.pathOfUri?).any test = true ↔
      NamesFile (fun path => test path = true) uris := by
  constructor
  · intro found
    obtain ⟨path, member, passes⟩ := List.any_eq_true.mp found
    obtain ⟨uri, listed, given⟩ := List.mem_filterMap.mp member
    exact ⟨uri, listed, path, given, passes⟩
  · rintro ⟨uri, listed, path, given, passes⟩
    exact List.any_eq_true.mpr ⟨path, List.mem_filterMap.mpr ⟨uri, listed, given⟩, passes⟩

theorem is_config_file_iff (path : Path) : Server.isConfigFile path = true ↔ IsConfigPath path := by
  rw [Server.isConfigFile, beq_iff_eq, IsConfigPath]

namespace Server

/-- The server with what a call says about the workspace and the settings of the
client, before anything follows from it. -/
def hear (server : Server) (files : FileSystem) : Call → Server
  | .request (.start hints options) =>
      { (server.withRoot (workspaceRoot? files hints)).1 with initializationOptions := options }
  | .notification (.didChangeConfiguration configuration) =>
      server.storeConfiguration configuration
  | _ => server

/-- What becomes of a server whose settings are left alone. -/
inductive Quiet (files : FileSystem) (server : Server) : Server → Prop
  | documents (documents : DocumentStore) :
      Quiet files server { server with documents := documents }
  | loaded (directory : Path) : Quiet files server (server.loadProject files directory).2
  | cleared : Quiet files server server.clearCache

theorem Quiet.unchanged (files : FileSystem) (server : Server) : Quiet files server server :=
  .documents server.documents

theorem quiet_settings {files : FileSystem} {server next : Server}
    (quiet : Quiet files server next) :
    next.settings = server.settings ∧ next.root = server.root ∧
      next.initializationOptions = server.initializationOptions ∧
      next.clientConfiguration = server.clientConfiguration := by
  cases quiet with
  | documents => exact ⟨rfl, rfl, rfl, rfl⟩
  | loaded => exact ⟨rfl, rfl, rfl, rfl⟩
  | cleared => exact ⟨rfl, rfl, rfl, rfl⟩

section Handlers

variable (server : Server) (files : FileSystem) (uri : String)

theorem did_open_quiet (text : String) (version : Int) (languageId : String) :
    Quiet files server (server.didOpen uri text version languageId) := by
  rw [didOpen]
  split
  · exact .unchanged files server
  · exact .documents _

theorem did_change_quiet (version : Int) (changes : List Text.Change) :
    Quiet files server (server.didChange uri version changes).1 := by
  rw [didChange]
  split
  · exact .unchanged files server
  · split
    · exact .documents _
    · exact .unchanged files server

theorem did_close_quiet : Quiet files server (server.didClose uri) := by
  rw [didClose]
  split
  · exact .unchanged files server
  · exact .documents _

theorem goto_definition_quiet (position : Text.Position) :
    Quiet files server (server.gotoDefinition files uri position).1 := by
  rw [gotoDefinition]
  split
  · exact .unchanged files server
  · split
    · exact .unchanged files server
    · exact .unchanged files server
    · rename_i path document given stored
      split
      · exact .unchanged files server
      · rename_i offset found
        -- both outcomes leave the same server behind
        have next : Quiet files server
            (if loadsFor path document.text offset then
              (server.loadProject files (Definition.directoryOf path)).2 else server) := by
          split
          · exact .loaded _
          · exact .unchanged files server
        dsimp only
        split
        · exact next
        · exact next

theorem completion_quiet : Quiet files server (server.completion files uri).1 := by
  rw [completion]
  split
  · exact .unchanged files server
  · exact .loaded _

end Handlers

section WatchedFiles

variable {server : Server} {files : FileSystem} {uris : List String}

theorem any_config_file_iff :
    (uris.filterMap pathOfUri?).any isConfigFile = true ↔ NamesFile IsConfigPath uris := by
  simp only [any_path_iff, NamesFile, is_config_file_iff]

theorem any_clearing_file_iff :
    (uris.filterMap pathOfUri?).any (fun path => isTaglibSource path || isConfigFile path) = true ↔
      NamesFile (fun path => isTaglibSource path = true ∨ IsConfigPath path) uris := by
  simp only [any_path_iff, NamesFile, Bool.or_eq_true, is_config_file_iff]

theorem names_clearing_of_config (named : NamesFile IsConfigPath uris) :
    NamesFile (fun path => isTaglibSource path = true ∨ IsConfigPath path) uris := by
  obtain ⟨uri, listed, path, given, config⟩ := named
  exact ⟨uri, listed, path, given, .inr config⟩

theorem watched_config (named : NamesFile IsConfigPath uris) :
    (server.didChangeWatchedFiles files uris).1 = (server.reloadSettings files).1.clearCache := by
  rw [didChangeWatchedFiles]
  simp only [any_config_file_iff.mpr named,
    any_clearing_file_iff.mpr (names_clearing_of_config named), if_true]

theorem watched_source (other : ¬ NamesFile IsConfigPath uris)
    (named : NamesFile (fun path => isTaglibSource path = true ∨ IsConfigPath path) uris) :
    (server.didChangeWatchedFiles files uris).1 = server.clearCache := by
  rw [didChangeWatchedFiles, if_neg (mt any_config_file_iff.mp other)]
  simp only [any_clearing_file_iff.mpr named, if_true]

theorem watched_silent
    (unrelated : ¬ NamesFile (fun path => isTaglibSource path = true ∨ IsConfigPath path) uris) :
    server.didChangeWatchedFiles files uris = (server, []) := by
  have other := mt names_clearing_of_config unrelated
  rw [didChangeWatchedFiles, if_neg (mt any_config_file_iff.mp other)]
  simp only [if_neg (mt any_clearing_file_iff.mp unrelated)]

theorem watched_unrelated
    (unrelated : ¬ NamesFile (fun path => isTaglibSource path = true ∨ IsConfigPath path) uris) :
    (server.didChangeWatchedFiles files uris).1 = server := by
  rw [watched_silent unrelated]

end WatchedFiles

end Server

namespace Session

variable {session : Session} {files : FileSystem} {call : Call}

/-- A call that does not reload the settings does not even say anything about
them. -/
theorem hear_quiet (quiet : ¬ call.Reloads) (server : Server) :
    server.hear files call = server := by
  cases call with
  | request request =>
      cases request with
      | start => exact absurd trivial quiet
      | _ => rfl
  | notification notification =>
      cases notification with
      | didChangeConfiguration => exact absurd trivial quiet
      | _ => rfl

theorem take_quiet (quiet : ¬ call.Reloads) :
    Server.Quiet files session.server (session.take files call).server := by
  cases call with
  | request request =>
      cases request with
      | start => exact absurd trivial quiet
      | shutdown => exact .cleared
      | definition uri position =>
          exact Server.goto_definition_quiet session.server files uri position
      | completion uri => exact Server.completion_quiet session.server files uri
      | resolve => exact .unchanged files session.server
  | notification notification =>
      cases notification with
      | initialized => exact .unchanged files session.server
      | didOpen uri text version languageId =>
          exact Server.did_open_quiet session.server files uri text version languageId
      | didChange uri version changes =>
          exact Server.did_change_quiet session.server files uri version changes
      | didClose uri => exact Server.did_close_quiet session.server files uri
      | didChangeConfiguration => exact absurd trivial quiet
      | didChangeWatchedFiles uris =>
          change Server.Quiet files session.server
            (session.server.didChangeWatchedFiles files uris).1
          -- a file that reloads the settings is not among them
          by_cases named : NamesFile
              (fun path => Server.isTaglibSource path = true ∨ IsConfigPath path) uris
          · rw [Server.watched_source quiet named]
            exact .cleared
          · rw [Server.watched_unrelated named]
            exact .unchanged files session.server

theorem take_reloading (reloads : call.Reloads) :
    (session.take files call).server =
        ((session.server.hear files call).reloadSettings files).1 ∨
      (session.take files call).server =
        ((session.server.hear files call).reloadSettings files).1.clearCache := by
  cases call with
  | request request =>
      cases request with
      | start => exact .inl rfl
      | _ => exact reloads.elim
  | notification notification =>
      cases notification with
      | didChangeConfiguration => exact .inr rfl
      | didChangeWatchedFiles uris => exact .inr (Server.watched_config reloads)
      | _ => exact reloads.elim

theorem take_clearing (clears : call.Clears) :
    (session.take files call).server.cache.lookups = [] := by
  cases call with
  | request request =>
      cases request with
      | shutdown => rfl
      | _ => exact clears.elim
  | notification notification =>
      cases notification with
      | didChangeConfiguration => rfl
      | didChangeWatchedFiles uris =>
          change (session.server.didChangeWatchedFiles files uris).1.cache.lookups = []
          by_cases config : NamesFile IsConfigPath uris
          · rw [Server.watched_config config]
            rfl
          · rw [Server.watched_source config clears]
            rfl
      | _ => exact clears.elim

end Session

end TemplateServer
