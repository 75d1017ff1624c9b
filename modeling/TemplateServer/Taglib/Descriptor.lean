import TemplateServer.Error
import TemplateServer.Json.Parser

/-!
Descriptor files of tags. A library descriptor declares tags under keys such as
`<my-tag>` and names directories to search for more; a tag descriptor describes
the one tag whose directory it stands in.
-/

namespace TemplateServer.Taglib

structure Autocomplete where
  snippet : Option String
  moreUrl : Option String
  deriving DecidableEq

namespace Autocomplete

def decode : Json.Decoder Autocomplete
  | .array items => do
      let snippet ← Json.decodeOptional Json.decodeText (items.head?.getD .null)
      let moreUrl ← Json.decodeOptional Json.decodeText ((items.drop 1).head?.getD .null)
      Json.decodeEnd items 2
      return ⟨snippet, moreUrl⟩
  | .object members => do
      let moreUrl ← Json.decodeField Json.decodeText members "descriptionMoreURL"
      let snippet ← Json.decodeField Json.decodeText members "snippet"
      return ⟨snippet, moreUrl⟩
  | found => .error (.invalidType found "struct Autocomplete")

def toJson (usage : Autocomplete) : Json :=
  let moreUrl := usage.moreUrl.toList.map fun url => ("descriptionMoreURL", Json.string url)
  let snippet := usage.snippet.toList.map fun text => ("snippet", Json.string text)
  .object (moreUrl ++ snippet)

end Autocomplete

structure Implementation where
  template : Option Path
  renderer : Option Path
  taglib : Option Path
  deriving DecidableEq

def Implementation.unknown : Implementation := ⟨none, none, none⟩

/-- All that is known of a tag. Each attribute has the file that declares it. -/
structure TagDefinition where
  name : String
  implementation : Implementation
  attributes : Dictionary (Option Path)
  autocomplete : List Autocomplete
  deriving DecidableEq

def TagDefinition.isResolvable (definition : TagDefinition) : Bool :=
  definition.implementation.template.isSome || definition.implementation.renderer.isSome

structure Library where
  path : Path
  tags : List TagDefinition
  tagsDirs : List Path
  deriving DecidableEq

/-- A path as seen from the directory of the file that mentions it. -/
def besideFile (file : Path) (relative : String) : Path :=
  ((file.parent?.getD ⟨false, []⟩).child relative).cleaned

/-- The name of the tag whose attributes belong to every tag. -/
def globalTag : String := "*"

def tagOfKey? (key : String) : Option String :=
  if key = "*" then some globalTag
  else
    match key.toList with
    | '<' :: rest =>
        if rest.getLast? = some '>' then some (String.ofList rest.dropLast) else none
    | _ => none

def attributeOfKey? (key : String) : Option String :=
  match key.toList with
  | '@' :: rest => some (String.ofList rest)
  | _ => none

/-- The attributes that a tag definition declares: its own members with the sign
of an attribute, and all keys under `attributes`. -/
def attributeNames (members : List (String × Json)) : List String :=
  let direct := (Dictionary.keys members).filterMap attributeOfKey?
  let grouped :=
    match Dictionary.get? members "attributes" with
    | some (.object declared) =>
        (Dictionary.keys declared).map fun key => (attributeOfKey? key).getD key
    | _ => []
  direct ++ grouped

def tagDefinition (name : String) (file : Path) (members : List (String × Json)) :
    Except DescriptorFault TagDefinition := do
  let pathField (key : String) : Option Path :=
    ((Dictionary.get? members key).bind Json.text?).map (besideFile file)
  let autocomplete ←
    match Dictionary.get? members "autocomplete" with
    | none => .ok []
    | some found =>
        match Json.decodeList Autocomplete.decode found with
        | .ok examples => .ok examples
        | .error cause => .error (.autocomplete name cause)
  .ok
    { name := name
      implementation := ⟨pathField "template", pathField "renderer", some file⟩
      attributes := Dictionary.ofList ((attributeNames members).map fun attr => (attr, some file))
      autocomplete := autocomplete }

def tagOfJson (name : String) (file : Path) : Json → Except DescriptorFault TagDefinition
  | .object members => tagDefinition name file members
  | _ => .error (.tagNotObject name)

def textOrList : Json → List String
  | .string text => [text]
  | .array items => items.filterMap Json.text?
  | _ => []

def libraryOfMembers (file : Path) (members : List (String × Json)) :
    Except DescriptorFault Library := do
  let tags ← members.filterMapM fun (key, value) =>
    match tagOfKey? key with
    | none => .ok none
    | some name => (tagOfJson name file value).map some
  let tagsDirs :=
    match Dictionary.get? members "tags-dir" with
    | some value => (textOrList value).map (besideFile file)
    | none => []
  return ⟨file, tags, tagsDirs⟩

def descriptorMembers (contents : String) : Except DescriptorFault (List (String × Json)) :=
  match Json.parse? contents with
  | none => .error .malformed
  | some (.object members) => .ok members
  | some _ => .error .notObject

def parseLibrary (file : Path) (contents : String) : Except DescriptorFault Library := do
  libraryOfMembers file (← descriptorMembers contents)

def parseTag (name : String) (file : Path) (contents : String) :
    Except DescriptorFault TagDefinition := do
  tagDefinition name file (← descriptorMembers contents)

def Library.ofFile (file : Path) (contents : String) : Except ServerError Library :=
  (parseLibrary file contents).mapError (.taglib file)

def TagDefinition.ofFile (name : String) (file : Path) (contents : String) :
    Except ServerError TagDefinition :=
  (parseTag name file contents).mapError (.taglib file)

end TemplateServer.Taglib
