import TemplateServer.Json.Decode

/-!
Settings and the layers that they are resolved from. A layer sets some of the
fields; of several layers the last one that sets a field decides it.
-/

namespace TemplateServer

/-- Settings as somebody wrote them, with unset fields. -/
structure SettingsLayer where
  componentFiles : Option (List String)
  tagsDirs : Option (List String)
  installedTaglibs : Option Bool
  deriving DecidableEq

structure Settings where
  /-- Files next to a template that may hold its handlers, in order of priority. -/
  componentFiles : List String
  /-- Directories below the project root that hold tags. -/
  tagsDirs : List String
  /-- Whether the packages that a project depends on are searched for tags. -/
  installedTaglibs : Bool
  deriving DecidableEq

namespace SettingsLayer

def default : SettingsLayer :=
  ⟨some ["component.js", "widget.js", "index.js"], some ["components"], some true⟩

def above (upper lower : SettingsLayer) : SettingsLayer :=
  ⟨upper.componentFiles.or lower.componentFiles, upper.tagsDirs.or lower.tagsDirs,
    upper.installedTaglibs.or lower.installedTaglibs⟩

/-- The second layer over the first, where either may be absent. -/
def merge : Option SettingsLayer → Option SettingsLayer → Option SettingsLayer
  | none, upper => upper
  | lower, none => lower
  | some lower, some upper => some (upper.above lower)

def mergeAll (layers : List (Option SettingsLayer)) : Option SettingsLayer :=
  layers.foldl merge none

def decode : Json.Decoder SettingsLayer
  | .array items => do
      let needed (index : Nat) : Except Json.DecodeError Json :=
        match items[index]? with
        | some item => .ok item
        | none => .error (.invalidLength index "struct MarkoSettings with 3 elements")
      let componentFiles ←
        Json.decodeOptional (Json.decodeList Json.decodeText) (← needed 0)
      let tagsDirs ← Json.decodeOptional (Json.decodeList Json.decodeText) (← needed 1)
      let installedTaglibs ← Json.decodeOptional Json.decodeBool (← needed 2)
      Json.decodeEnd items 3
      return ⟨componentFiles, tagsDirs, installedTaglibs⟩
  | .object members => do
      let componentFiles ←
        Json.decodeField (Json.decodeList Json.decodeText) members "componentFiles"
      let installedTaglibs ← Json.decodeField Json.decodeBool members "installedTaglibs"
      let tagsDirs ← Json.decodeField (Json.decodeList Json.decodeText) members "tagsDirs"
      return ⟨componentFiles, tagsDirs, installedTaglibs⟩
  | found => .error (.invalidType found "struct MarkoSettings")

end SettingsLayer

namespace Settings

def ofLayer (layer : SettingsLayer) : Settings :=
  let whole := layer.above SettingsLayer.default
  ⟨whole.componentFiles.getD [], whole.tagsDirs.getD [], whole.installedTaglibs.getD false⟩

def default : Settings := ofLayer SettingsLayer.default

end Settings

end TemplateServer
