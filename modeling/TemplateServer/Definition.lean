import TemplateServer.Markup.Scope
import TemplateServer.Settings.Basic
import TemplateServer.Taglib.Lookup
import TemplateServer.Text.Search
import TemplateServer.Url.Basic

/-!
Where the thing under the cursor is defined: the template of a tag and the
descriptor that declares it, the declaration of an attribute, or the handler
that an attribute names.
-/

namespace TemplateServer

structure Target where
  url : Url
  range : Text.Range
  deriving DecidableEq

/-- What is known of tags and their attributes, seen from one document. -/
structure Registry where
  tag? : String → Option Taglib.Implementation
  attribute? : String → String → Option (Option Path)

def Taglib.Lookup.registry (lookup : Taglib.Lookup) : Registry :=
  ⟨lookup.tag?, lookup.attribute?⟩

namespace Target

def startRange : Text.Range := ⟨⟨0, 0⟩, ⟨0, 0⟩⟩

def inFile? (path : Path) (range : Text.Range) : Option Target :=
  (Url.ofFilePath? path).map fun url => ⟨url, range⟩

def atStart? (path : Path) : Option Target := inFile? path startRange

/-- The place that a pattern finds in a file, or the start of the file. A file
that cannot be read has none. -/
def located? (files : FileSystem) (path : Path) (pattern : Text.Pattern) (number : Nat) :
    Option Target :=
  match files.readText path, pattern.compile? with
  | .error _, _ => none
  | .ok _, none => atStart? path
  | .ok contents, some compiled =>
      let range := (compiled.find? number contents).bind fun (start, stop) =>
        Text.range? contents start stop
      inFile? path (range.getD startRange)

end Target

namespace Definition

/-- The template of a tag, or else its renderer, and then its descriptor if that
is there. A tag without both is unresolved. -/
def ofTag (registry : Registry) (files : FileSystem) (tag : String) :
    Except ServerError (List Target) :=
  let known := (registry.tag? tag).getD Taglib.Implementation.unknown
  match known.template.or known.renderer with
  | none => .error (.unresolvedTag tag)
  | some path =>
      let descriptor := known.taglib.bind fun file =>
        if files.isFile file then Target.atStart? file else none
      .ok ((Target.atStart? path).toList ++ descriptor.toList)

def ofAttribute? (registry : Registry) (files : FileSystem) (tag name : String) : Option Target :=
  (registry.attribute? tag name).join.bind fun file =>
    Target.located? files file (Text.attributePattern name) 0

def componentFile? (files : FileSystem) (directory : Path) (names : List String) : Option Path :=
  (names.map directory.child).find? files.isFile

def ofHandler? (files : FileSystem) (directory : Path) (componentFiles : List String)
    (handler : String) : Option Target :=
  (componentFile? files directory componentFiles).bind fun file =>
    -- the group leaves out the character in front of the name
    Target.located? files file (Text.handlerPattern handler) 1

def ofScope (registry : Registry) (files : FileSystem) (directory : Path) (settings : Settings)
    (scope : Markup.Scope) : Except ServerError (List Target) :=
  match scope.kind with
  | .tag => ofTag registry files scope.tagName
  | .attributeName name => .ok (ofAttribute? registry files scope.tagName name).toList
  | .attributeValue handler =>
      .ok (ofHandler? files directory settings.componentFiles handler).toList
  | .noScope => .ok []

def looksUpTags : Markup.ScopeKind → Bool
  | .tag | .attributeName _ => true
  | .attributeValue _ | .noScope => false

def directoryOf (document : Path) : Path := document.parent?.getD ⟨false, []⟩

def atOffset (registry : Registry) (files : FileSystem) (document : Path) (text : String)
    (offset : Nat) (settings : Settings) : Except ServerError (List Target) :=
  match Markup.scopeAt text offset with
  | none => .ok []
  | some scope => ofScope registry files (directoryOf document) settings scope

end Definition

end TemplateServer
