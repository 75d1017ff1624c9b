import TemplateServer.Error
import TemplateServer.Settings.Basic
import TemplateServer.Toml.Parser

/-!
Where settings come from. Above the defaults lie the configuration file of the
user, the one in the workspace root, and what the client sent, in this order. A
layer that cannot be read counts as absent and leaves a warning.
-/

namespace TemplateServer

def configFileName : String := "marko-ls.toml"

inductive SettingsSource where
  | initializationOptions
  | clientConfiguration
  deriving DecidableEq

def SettingsSource.description : SettingsSource → String
  | .initializationOptions => "initialization options"
  | .clientConfiguration => "client configuration"

inductive SettingsEvent where
  | userLoaded
  | userFailed (error : ServerError)
  | projectFound (path : Path)
  | projectLoaded
  | projectMalformed (fault : ConfigurationFault)
  | projectUnreadable (cause : IoError)
  | clientParsed (source : SettingsSource)
  | clientFailed (source : SettingsSource) (cause : Json.DecodeError)

namespace SettingsEvent

def isWarning : SettingsEvent → Bool
  | .userLoaded | .projectFound _ | .projectLoaded | .clientParsed _ => false
  | _ => true

def message : SettingsEvent → String
  | .userLoaded => "Loaded user config"
  | .userFailed error => "Failed to load user config: " ++ error.message
  | .projectFound path => "Found config file: " ++ path.text
  | .projectLoaded => "Successfully loaded " ++ configFileName
  | .projectMalformed fault => "Failed to parse " ++ configFileName ++ ": " ++ fault.message
  | .projectUnreadable cause => "Failed to read " ++ configFileName ++ ": " ++ cause.message
  | .clientParsed source => "Parsed " ++ source.description ++ " as marko-ls settings"
  | .clientFailed source cause =>
      "Failed to parse " ++ source.description ++ ": " ++ cause.message

end SettingsEvent

namespace SettingsLayer

def textsOfToml? : Toml → Option (List String)
  | .array items => items.mapM fun item =>
      match item with
      | .text content => some content
      | _ => none
  | _ => none

def boolOfToml? : Toml → Option Bool
  | .boolean value => some value
  | _ => none

def field? {Value : Type} (read? : Toml → Option Value) (entries : Toml.Entries) (key : String) :
    Option (Option Value) :=
  match Dictionary.get? entries key with
  | none => some none
  | some found => (read? found).map some

def ofToml? (contents : String) : Option SettingsLayer := do
  let entries ← Toml.parse? contents
  some
    { componentFiles := ← field? textsOfToml? entries "componentFiles"
      tagsDirs := ← field? textsOfToml? entries "tagsDirs"
      installedTaglibs := ← field? boolOfToml? entries "installedTaglibs" }

end SettingsLayer

abbrev LayerOutcome := Option SettingsLayer × List SettingsEvent

def userConfigPath? (files : FileSystem) : Option Path :=
  files.configDirectory.map fun directory => (directory.child "marko-ls").child configFileName

def userLayer (files : FileSystem) : LayerOutcome :=
  match userConfigPath? files with
  | none => (none, [])
  | some path =>
      if files.isFile path then
        match files.readText path with
        | .error cause => (none, [.userFailed (.io cause)])
        | .ok contents =>
            match SettingsLayer.ofToml? contents with
            | none => (none, [.userFailed (.configuration .invalidToml)])
            | some layer => (some layer, [.userLoaded])
      else (none, [])

def projectLayer (files : FileSystem) (root : Option Path) : LayerOutcome :=
  match root with
  | none => (none, [])
  | some directory =>
      let path := directory.child configFileName
      if files.fileExists path then
        match files.readText path with
        | .error cause => (none, [.projectFound path, .projectUnreadable cause])
        | .ok contents =>
            match SettingsLayer.ofToml? contents with
            | none => (none, [.projectFound path, .projectMalformed .invalidToml])
            | some layer => (some layer, [.projectFound path, .projectLoaded])
      else (none, [])

/-- The part of a client value that concerns this server: its own section if it
has one, and all of it otherwise. -/
def clientSection (value : Json) : Json := (value.member? "marko").getD value

def clientLayer (source : SettingsSource) (value : Json) : LayerOutcome :=
  match clientSection value with
  | .null => (none, [])
  | part =>
      match SettingsLayer.decode part with
      | .ok layer => (some layer, [.clientParsed source])
      | .error cause => (none, [.clientFailed source cause])

/-- All layers above the defaults, from the lowest to the highest. -/
def settingsLayers (files : FileSystem) (root : Option Path)
    (client : List (SettingsSource × Json)) : List LayerOutcome :=
  userLayer files :: projectLayer files root ::
    client.map fun (source, value) => clientLayer source value

structure SettingsOutcome where
  settings : Settings
  events : List SettingsEvent

def loadSettings (files : FileSystem) (root : Option Path)
    (client : List (SettingsSource × Json)) : SettingsOutcome :=
  let layers := settingsLayers files root client
  let merged := SettingsLayer.mergeAll (some SettingsLayer.default :: layers.map (·.1))
  ⟨(merged.map Settings.ofLayer).getD Settings.default, layers.flatMap (·.2)⟩

end TemplateServer
