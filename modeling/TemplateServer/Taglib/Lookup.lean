import TemplateServer.Taglib.Descriptor

/-!
The tags that are visible from one project root.
-/

namespace TemplateServer.Taglib

structure Lookup where
  root : Path
  tags : Dictionary TagDefinition
  markoVersion : Option Nat
  deriving DecidableEq

structure TagInfo where
  name : String
  autocomplete : List Autocomplete
  deriving DecidableEq

namespace Lookup

/-- Of several definitions of a name the last one counts. -/
def ofDefinitions (root : Path) (definitions : List TagDefinition) (version : Option Nat) :
    Lookup :=
  ⟨root, Dictionary.ofList (definitions.map fun definition => (definition.name, definition)),
    version⟩

def tag? (lookup : Lookup) (name : String) : Option Implementation :=
  (Dictionary.get? lookup.tags name).map (·.implementation)

/-- An attribute of a tag, or else one that belongs to every tag. -/
def attribute? (lookup : Lookup) (tag name : String) : Option (Option Path) :=
  [tag, globalTag].findSome? fun owner =>
    (Dictionary.get? lookup.tags owner).bind fun definition =>
      Dictionary.get? definition.attributes name

def sortedTags (lookup : Lookup) : List TagDefinition :=
  (lookup.tags.map (·.2)).filter fun definition => definition.name != globalTag

def sortedInfos (lookup : Lookup) : List TagInfo :=
  lookup.sortedTags.map fun definition => ⟨definition.name, definition.autocomplete⟩

end Lookup

end TemplateServer.Taglib
