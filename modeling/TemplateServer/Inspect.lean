import TemplateServer.Json.Printer
import TemplateServer.Protocol.Reply

/-!
One look at a position of a file, without a session: what stands there and where
it is defined.
-/

namespace TemplateServer

structure Inspection where
  offset : Nat
  scope : Option Markup.Scope
  definitions : List Target

namespace Inspection

def kindText : Markup.ScopeKind → String
  | .tag => "tag"
  | .attributeName _ => "attributeName"
  | .attributeValue _ => "attributeValue"
  | .noScope => "noScope"

def kindData? : Markup.ScopeKind → Option String
  | .attributeName name => some name
  | .attributeValue handler => some handler
  | _ => none

def scopeJson (scope : Markup.Scope) : Json :=
  let data := (kindData? scope.kind).toList.map fun data => ("data", Json.string data)
  .object
    (data ++ [("kind", .string (kindText scope.kind)), ("tagName", .string scope.tagName)])

def toJson (inspection : Inspection) : Json :=
  .object
    [("definitions", .array (inspection.definitions.map Protocol.targetJson)),
      ("offset", .natural inspection.offset),
      ("scope", (inspection.scope.map scopeJson).getD .null)]

/-- Looks at a position of a file. The settings are those of the project that
the file belongs to. -/
def ofFile (files : FileSystem) (path : Path) (position : Text.Position) :
    Except ServerError Inspection := do
  let file := path.fromRoot files.workingDirectory
  let text ←
    match files.readText file with
    | .ok text => .ok text
    | .error cause => .error (.io cause)
  match Text.offset? text position with
  | none => .error (.configuration (.lineMissing position.line file))
  | some offset =>
      let root := file.parent?.map (Taglib.projectRoot files)
      let settings := (loadSettings files root []).settings
      let cache := Taglib.Cache.empty (Taglib.DiscoveryOptions.ofSettings settings)
      let lookup := (cache.lookup files (Definition.directoryOf file)).1
      let definitions ← Definition.atOffset lookup.registry files file text offset settings
      .ok ⟨offset, Markup.scopeAt text offset, definitions⟩

end Inspection

end TemplateServer
