import TemplateServer.Completion
import TemplateServer.Definition
import TemplateServer.Document
import TemplateServer.Settings.Load
import TemplateServer.Taglib.Cache
import TemplateServer.Url.Strict

/-!
The state of a language server and what each kind of message does to it. The
file system is an argument of every step, so files may change between steps. A
step gives the next state and the messages for the client.
-/

namespace TemplateServer

inductive ClientMessage where
  | log (isWarning : Bool) (text : String)
  | watchFiles (patterns : List String)

structure Server where
  documents : DocumentStore
  cache : Taglib.Cache
  settings : Settings
  root : Option Path
  /-- What the client sent when the session began. -/
  initializationOptions : Option Json
  /-- The last settings that the client sent after that. -/
  clientConfiguration : Option Json

structure WorkspaceHints where
  /-- The addresses of the workspace folders. -/
  folders : List String
  rootUri : Option String
  rootPath : Option String

namespace Server

def initial : Server :=
  { documents := []
    cache := Taglib.Cache.empty Taglib.DiscoveryOptions.default
    settings := Settings.default
    root := none
    initializationOptions := none
    clientConfiguration := none }

def pathOfUri? (uri : String) : Option Path := (Url.parse? uri).bind Url.filePath?

/-- The workspace root and where it was taken from: the first folder, then the
root address, then the root path, then the current directory. The first of them
that is given decides, even if it is no file address. -/
def workspaceRoot? (files : FileSystem) (hints : WorkspaceHints) : Option (Path × String) :=
  match hints.folders, hints.rootUri, hints.rootPath with
  | folder :: _, _, _ => (pathOfUri? folder).map fun path => (path, "workspace folders")
  | [], some uri, _ => (pathOfUri? uri).map fun path => (path, "root_uri")
  | [], none, some path => some (Path.ofText path, "root_path (deprecated)")
  | [], none, none => some (files.workingDirectory, "current working directory (fallback)")

def clientLayers (server : Server) : List (SettingsSource × Json) :=
  (server.initializationOptions.toList.map fun value =>
      (SettingsSource.initializationOptions, value)) ++
    server.clientConfiguration.toList.map fun value => (SettingsSource.clientConfiguration, value)

def settingsOutcome (server : Server) (files : FileSystem) : SettingsOutcome :=
  loadSettings files server.root server.clientLayers

def applySettings (server : Server) (settings : Settings) : Server :=
  { server with
    settings := settings
    cache := server.cache.setOptions (Taglib.DiscoveryOptions.ofSettings settings) }

def settingsMessages (events : List SettingsEvent) : List ClientMessage :=
  events.map fun event => .log event.isWarning event.message

def reloadSettings (server : Server) (files : FileSystem) : Server × List ClientMessage :=
  let outcome := server.settingsOutcome files
  (server.applySettings outcome.settings, settingsMessages outcome.events)

def clearCache (server : Server) : Server := { server with cache := server.cache.clear }

def withRoot (server : Server) (root : Option (Path × String)) : Server × ClientMessage :=
  match root with
  | some (path, source) =>
      ({ server with root := some path },
        .log false ("Using workspace root from " ++ source ++ ": " ++ path.text))
  | none =>
      (server,
        .log true
          ("Failed to determine workspace root - " ++ configFileName ++ " will not be loaded"))

def start (server : Server) (files : FileSystem) (hints : WorkspaceHints)
    (options : Option Json) : Server × List ClientMessage :=
  let (rooted, rootMessage) := server.withRoot (workspaceRoot? files hints)
  let (ready, messages) := reloadSettings { rooted with initializationOptions := options } files
  (ready, .log false "Received initialization request" :: rootMessage :: messages)

def watchedPatterns : List String :=
  [Taglib.libraryFileName, Taglib.tagFileName, Taglib.packageFileName, "*.marko"].map ("**/" ++ ·)

def initialized : List ClientMessage := [.watchFiles watchedPatterns, .log false "server is ready"]

def shutdown (server : Server) : Server := server.clearCache

def didOpen (server : Server) (uri text : String) (version : Int) (languageId : String) : Server :=
  match Url.parse? uri with
  | none => server
  | some url =>
      { server with documents := server.documents.insert url ⟨text, some version, some languageId⟩ }

def didChange (server : Server) (uri : String) (version : Int) (changes : List Text.Change) :
    Server × List ClientMessage :=
  match Url.parse? uri with
  | none => (server, [])
  | some url =>
      match server.documents.change? url changes (some version) with
      | some documents => ({ server with documents := documents }, [])
      | none => (server, [.log true "Document not found for change event"])

def didClose (server : Server) (uri : String) : Server :=
  match Url.parse? uri with
  | none => server
  | some url => { server with documents := server.documents.erase url }

def storeConfiguration (server : Server) (configuration : Json) : Server :=
  match configuration with
  | .null => server
  | _ => { server with clientConfiguration := some configuration }

def didChangeConfiguration (server : Server) (files : FileSystem) (configuration : Json) :
    Server × List ClientMessage :=
  let (reloaded, messages) := (server.storeConfiguration configuration).reloadSettings files
  (reloaded.clearCache, messages)

/-- Whether a change of a file can change the tags of a project. -/
def isTaglibSource (path : Path) : Bool :=
  path.fileName?.any (fun name =>
      name == .name Taglib.libraryFileName || name == .name Taglib.tagFileName ||
        name == .name Taglib.packageFileName) ||
    path.extension? == some (.name "marko")

def isConfigFile (path : Path) : Bool := path.fileName? == some (.name configFileName)

def didChangeWatchedFiles (server : Server) (files : FileSystem) (uris : List String) :
    Server × List ClientMessage :=
  let paths := uris.filterMap pathOfUri?
  let (reloaded, messages) :=
    if paths.any isConfigFile then server.reloadSettings files else (server, [])
  if paths.any fun path => isTaglibSource path || isConfigFile path then
    (reloaded.clearCache, messages)
  else (reloaded, messages)

def loadProject (server : Server) (files : FileSystem) (directory : Path) :
    Taglib.Lookup × Server :=
  let (lookup, cache) := server.cache.lookup files directory
  (lookup, { server with cache := cache })

/-- Whether a definition request makes the server load the document's project: it
does so for every document in a directory, and else where tags are looked up. -/
def loadsFor (path : Path) (text : String) (offset : Nat) : Bool :=
  path.parent?.isSome ||
    (Markup.scopeAt text offset).any fun scope => Definition.looksUpTags scope.kind

/-- The targets whose addresses a client understands; none if there are none. -/
def locations? (targets : List Target) : Option (List Target) :=
  match targets.filter fun target => Url.isStrict target.url.text with
  | [] => none
  | known => some known

def gotoDefinition (server : Server) (files : FileSystem) (uri : String)
    (position : Text.Position) :
    Server × List ClientMessage × Except ServerError (Option (List Target)) :=
  match Url.parse? uri with
  | none => (server, [], .ok none)
  | some url =>
      match url.filePath?, server.documents.get? url with
      | none, _ => (server, [], .ok none)
      | some _, none => (server, [.log false "No document found"], .ok none)
      | some path, some document =>
          match Text.offset? document.text position with
          | none => (server, [], .ok none)
          | some offset =>
              let (lookup, loaded) := server.loadProject files (Definition.directoryOf path)
              let next := if loadsFor path document.text offset then loaded else server
              match Definition.atOffset lookup.registry files path document.text offset
                server.settings with
              | .ok targets => (next, [], .ok (locations? targets))
              | .error error => (next, [.log true error.message], .error error)

def completion (server : Server) (files : FileSystem) (uri : String) :
    Server × Option (List CompletionItem) :=
  match (pathOfUri? uri).bind Path.parent? with
  | none => (server, none)
  | some directory =>
      let (lookup, loaded) := server.loadProject files directory
      (loaded, some (completionList lookup.sortedInfos))

end Server

end TemplateServer
