import TemplateServer.Protocol.Shape
import TemplateServer.Taglib.Lookup

/-!
Completion of tag names. An item carries its examples of use through the client
as data, and they become documentation when the client asks for it.
-/

namespace TemplateServer

inductive Documentation where
  | plain (text : String)
  | markup (kind text : String)
  deriving DecidableEq

/-- A completion item. The members that play no part here are kept as they are. -/
structure CompletionItem where
  label : String
  documentation : Option Documentation
  data : Option Json
  details : Dictionary Json

namespace Documentation

def markdown (text : String) : Documentation := .markup "markdown" text

def toJson : Documentation → Json
  | .plain text => .string text
  | .markup kind text => .object [("kind", .string kind), ("value", .string text)]

def ofJson? (json : Json) : Option Documentation :=
  match json with
  | .string text => some (.plain text)
  | _ => do
      some (.markup (← (← json.member? "kind").text?) (← (← json.member? "value").text?))

end Documentation

namespace CompletionItem

def snippetKind : Nat := 15

def ofTag (tag : Taglib.TagInfo) : CompletionItem :=
  { label := tag.name
    documentation := none
    data :=
      if tag.autocomplete.isEmpty then none
      else some (.array (tag.autocomplete.map Taglib.Autocomplete.toJson))
    details := [("kind", Json.natural snippetKind)] }

/-- The lines of one example; an example without a snippet is an empty line. -/
def usage (entry : Taglib.Autocomplete) : String :=
  match entry.snippet with
  | none => ""
  | some snippet =>
      "Usage: " ++ snippet ++ "\n" ++
        match entry.moreUrl with
        | none => ""
        | some url => if url = "" then "" else "Read more at [link](" ++ url ++ ")"

def usageDocumentation (entries : List Taglib.Autocomplete) : String :=
  String.intercalate "\n" (entries.map usage)

/-- Adds the documentation that the data of an item describes; an item without
such data stays as it is. -/
def resolve (item : CompletionItem) : CompletionItem :=
  match item.data with
  | none => item
  | some data =>
      match Json.decodeList Taglib.Autocomplete.decode data with
      | .error _ => item
      | .ok entries =>
          { item with documentation := some (.markdown (usageDocumentation entries)) }

def ofJson? (json : Json) : Option CompletionItem := do
  match ← Protocol.Shape.completionItem.fit? json with
  | .object members =>
      some
        { label := ← (← Dictionary.get? members "label").text?
          documentation := (Dictionary.get? members "documentation").bind Documentation.ofJson?
          data := Dictionary.get? members "data"
          details := members.filter fun entry =>
            entry.1 != "label" && entry.1 != "documentation" && entry.1 != "data" }
  | _ => none

/-- Members without a value are not written. -/
def toJson (item : CompletionItem) : Json :=
  let data := item.data.toList.map fun data => ("data", data)
  let documentation := item.documentation.toList.map fun text => ("documentation", text.toJson)
  let members := ("label", .string item.label) :: data ++ documentation
  .object (Dictionary.insertAll item.details members)

end CompletionItem

def completionList (tags : List Taglib.TagInfo) : List CompletionItem :=
  tags.map CompletionItem.ofTag

end TemplateServer
