import TemplateServer.Json.Basic
import TemplateServer.Url.Strict

/-!
The forms that protocol messages have. A message is brought into its form:
members that the form does not know are left out, optional members that are
null are absent, and a message that does not fit is refused.
-/

namespace TemplateServer.Protocol

/-- When a member of a record may be left out. -/
inductive Presence where
  /-- It has to be there. -/
  | required
  /-- It may be null, or its key may be missing; in an array it keeps its place. -/
  | optional
  /-- It may be null or missing, from the end of an array as well. -/
  | trailing
  /-- It may be missing but not null. -/
  | omittable
  deriving DecidableEq

inductive Shape where
  | any
  | text
  | boolean
  | number
  | integer (least greatest : Int)
  | address
  /-- One of some words. It may also be the only key of an object, with null. -/
  | word (choices : List String)
  | literal (content : String)
  | list (item : Shape)
  /-- A list of so many items. -/
  | sized (count : Nat) (item : Shape)
  /-- An object with keys of its own, which may have to be addresses. -/
  | dictionary (byAddress : Bool) (item : Shape)
  /-- Members with their names. A positional record may also be written as the
  array of its members. -/
  | record (positional : Bool) (members : List (String × Presence × Shape))
  /-- A record in which all members but the known ones have one form. -/
  | extended (main : Shape) (known : List String) (other : Shape)
  | either (first second : Shape)

namespace Shape

/-- The member of a record: by its key, or by its place. -/
def given? (json : Json) (place : Nat) (name : String) : Option Json :=
  match json with
  | .object members => Dictionary.get? members name
  | .array items => items[place]?
  | _ => none

def mayHold (positional : Bool) (count : Nat) : Json → Bool
  | .object _ => true
  | .array items => positional && items.length ≤ count
  | _ => false

def mayLack (presence : Presence) (json : Json) : Bool :=
  match presence, json with
  | .required, _ => false
  | .optional, .array _ => false
  | _, _ => true

def mayBeNull (presence : Presence) : Bool := presence = .optional || presence = .trailing

def wordOf? : Json → Option String
  | .string content => some content
  | .object [(content, .null)] => some content
  | _ => none

mutual

def fit? : Shape → Json → Option Json
  | .any, json => some json
  | .text, .string content => some (.string content)
  | .boolean, .bool value => some (.bool value)
  | .number, .number value => some (.number value)
  | .integer least greatest, .number (.integer value) =>
      if least ≤ value ∧ value ≤ greatest then some (.number (.integer value)) else none
  | .address, .string content =>
      if Url.isStrict content then some (.string content) else none
  | .word choices, json => (wordOf? json).bind fun content =>
      if choices.contains content then some (.string content) else none
  | .literal expected, .string content =>
      if content = expected then some (.string content) else none
  | .list item, .array items => (items.mapM (fit? item)).map .array
  | .sized count item, .array items =>
      if items.length = count then (items.mapM (fit? item)).map .array else none
  | .dictionary byAddress item, .object members => do
      let fitted ← members.mapM fun (key, value) =>
        if byAddress && !Url.isStrict key then none
        else (fit? item value).map fun fitted => (key, fitted)
      some (.object fitted)
  | .record positional members, json =>
      if mayHold positional members.length json then
        (fitMembers? json 0 members).map fun fitted => .object (Dictionary.ofList fitted)
      else none
  | .extended main known other, .object members =>
      if members.all fun (key, value) => known.contains key || (fit? other value).isSome then
        fit? main (.object members)
      else none
  | .either first second, json => (fit? first json).or (fit? second json)
  | _, _ => none

def fitMembers? (json : Json) (place : Nat) :
    List (String × Presence × Shape) → Option (List (String × Json))
  | [] => some []
  | (name, presence, shape) :: rest => do
      let later ← fitMembers? json (place + 1) rest
      match given? json place name with
      | none => if mayLack presence json then some later else none
      | some found =>
          match mayBeNull presence, found with
          | true, .null => some later
          | _, _ => some ((name, ← fit? shape found) :: later)

end

def natural32 : Shape := .integer 0 4294967295

def integer32 : Shape := .integer (-2147483648) 2147483647

def whole (members : List (String × Shape)) : Shape :=
  .record true (members.map fun (name, shape) => (name, .required, shape))

def options (members : List (String × Shape)) : Shape :=
  .record true (members.map fun (name, shape) => (name, .optional, shape))

def required (name : String) (shape : Shape) : String × Presence × Shape :=
  (name, .required, shape)

def optional (name : String) (shape : Shape) : String × Presence × Shape :=
  (name, .optional, shape)

def position : Shape := whole [("line", natural32), ("character", natural32)]

def range : Shape := whole [("start", position), ("end", position)]

def location : Shape := whole [("uri", .address), ("range", range)]

def document : Shape := whole [("uri", .address)]

def markupKind : Shape := .word ["plaintext", "markdown"]

def documentation : Shape := .either .text (whole [("kind", markupKind), ("value", .text)])

def textEdit : Shape := whole [("range", range), ("newText", .text)]

def command : Shape :=
  .record true
    [required "title" .text, required "command" .text, optional "arguments" (.list .any)]

def completionItem : Shape :=
  .record true
    [required "label" .text,
      optional "labelDetails" (options [("detail", .text), ("description", .text)]),
      optional "kind" integer32, optional "detail" .text, optional "documentation" documentation,
      optional "deprecated" .boolean, optional "preselect" .boolean, optional "sortText" .text,
      optional "filterText" .text, optional "insertText" .text,
      optional "insertTextFormat" integer32, optional "insertTextMode" integer32,
      optional "textEdit"
        (.either textEdit (whole [("newText", .text), ("insert", range), ("replace", range)])),
      optional "additionalTextEdits" (.list textEdit), optional "command" command,
      optional "commitCharacters" (.list .text), optional "data" .any,
      optional "tags" (.list integer32)]

end Shape

end TemplateServer.Protocol
