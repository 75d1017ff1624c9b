import TemplateServer.Protocol.Capabilities
import TemplateServer.Server.Basic

/-!
The messages that the server understands, and how they are read from their
parameters.
-/

namespace TemplateServer.Protocol

inductive Request where
  | start (hints : WorkspaceHints) (options : Option Json)
  | shutdown
  | definition (uri : String) (position : Text.Position)
  | completion (uri : String)
  | resolve (item : CompletionItem)

inductive Notification where
  | initialized
  | didOpen (uri text : String) (version : Int) (languageId : String)
  | didChange (uri : String) (version : Int) (changes : List Text.Change)
  | didClose (uri : String)
  | didChangeConfiguration (configuration : Json)
  | didChangeWatchedFiles (uris : List String)

def at? (json : Json) : List String → Option Json
  | [] => some json
  | key :: rest => (json.member? key).bind fun inner => at? inner rest

def textAt? (json : Json) (keys : List String) : Option String := (at? json keys).bind Json.text?

def integerAt? (json : Json) (keys : List String) : Option Int :=
  match at? json keys with
  | some (.number (.integer value)) => some value
  | _ => none

def listAt (json : Json) (keys : List String) : List Json :=
  match at? json keys with
  | some (.array items) => items
  | _ => []

def positionAt? (json : Json) (keys : List String) : Option Text.Position := do
  let line ← integerAt? json (keys ++ ["line"])
  let column ← integerAt? json (keys ++ ["character"])
  some ⟨line.toNat, column.toNat⟩

def rangeAt? (json : Json) (keys : List String) : Option Text.Range := do
  some ⟨← positionAt? json (keys ++ ["start"]), ← positionAt? json (keys ++ ["end"])⟩

def change? (json : Json) : Option Text.Change := do
  some ⟨rangeAt? json ["range"], ← textAt? json ["text"]⟩

namespace Shape

def token : Shape := .either integer32 .text

def workDone : String × Presence × Shape := optional "workDoneToken" token

def partialResult : String × Presence × Shape := optional "partialResultToken" token

def startParams : Shape :=
  .record false
    [optional "processId" natural32, optional "rootPath" .text, optional "rootUri" .address,
      optional "initializationOptions" .any, required "capabilities" clientCapabilities,
      optional "trace" (.word ["off", "messages", "verbose"]),
      optional "workspaceFolders" (.list (whole [("uri", .address), ("name", .text)])),
      optional "clientInfo" (.record true [required "name" .text, optional "version" .text]),
      optional "locale" .text, workDone]

def positionParams (tokens : List (String × Presence × Shape)) : Shape :=
  .record false
    ([required "textDocument" document, required "position" position] ++ tokens)

def completionParams : Shape :=
  positionParams
    [workDone, partialResult,
      optional "context"
        (.record true [required "triggerKind" integer32, optional "triggerCharacter" .text])]

def openParams : Shape :=
  whole
    [("textDocument",
      whole [("uri", .address), ("languageId", .text), ("version", integer32), ("text", .text)])]

def changeParams : Shape :=
  whole
    [("textDocument", whole [("uri", .address), ("version", integer32)]),
      ("contentChanges",
        .list
          (.record true
            [optional "range" range, optional "rangeLength" natural32, required "text" .text]))]

def closeParams : Shape := whole [("textDocument", document)]

def configurationParams : Shape := whole [("settings", .any)]

def watchedParams : Shape :=
  whole [("changes", .list (whole [("uri", .address), ("type", integer32)]))]

end Shape

def startRequest? (params : Json) : Option Request := do
  let fitted ← Shape.startParams.fit? params
  let folders := (listAt fitted ["workspaceFolders"]).filterMap fun folder =>
    textAt? folder ["uri"]
  some
    (.start ⟨folders, textAt? fitted ["rootUri"], textAt? fitted ["rootPath"]⟩
      (at? fitted ["initializationOptions"]))

def definitionRequest? (params : Json) : Option Request := do
  let fitted ← (Shape.positionParams [Shape.workDone, Shape.partialResult]).fit? params
  some
    (.definition (← textAt? fitted ["textDocument", "uri"]) (← positionAt? fitted ["position"]))

def completionRequest? (params : Json) : Option Request := do
  let fitted ← Shape.completionParams.fit? params
  some (.completion (← textAt? fitted ["textDocument", "uri"]))

def openNotification? (params : Json) : Option Notification := do
  let fitted ← Shape.openParams.fit? params
  some
    (.didOpen (← textAt? fitted ["textDocument", "uri"]) (← textAt? fitted ["textDocument", "text"])
      (← integerAt? fitted ["textDocument", "version"])
      (← textAt? fitted ["textDocument", "languageId"]))

def changeNotification? (params : Json) : Option Notification := do
  let fitted ← Shape.changeParams.fit? params
  some
    (.didChange (← textAt? fitted ["textDocument", "uri"])
      (← integerAt? fitted ["textDocument", "version"])
      (← (listAt fitted ["contentChanges"]).mapM change?))

def closeNotification? (params : Json) : Option Notification := do
  let fitted ← Shape.closeParams.fit? params
  some (.didClose (← textAt? fitted ["textDocument", "uri"]))

def configurationNotification? (params : Json) : Option Notification := do
  let fitted ← Shape.configurationParams.fit? params
  some (.didChangeConfiguration (← at? fitted ["settings"]))

def watchedNotification? (params : Json) : Option Notification := do
  let fitted ← Shape.watchedParams.fit? params
  some
    (.didChangeWatchedFiles
      ((listAt fitted ["changes"]).filterMap fun change => textAt? change ["uri"]))

/-- How a request is read from its parameters; none for a method that is not
answered. A request that needs no parameters must not have any. -/
def requestReader? (method : String) : Option (Option Json → Option Request) :=
  match method with
  | "initialize" => some (·.bind startRequest?)
  | "shutdown" => some fun params => if params.isNone then some .shutdown else none
  | "textDocument/definition" => some (·.bind definitionRequest?)
  | "textDocument/completion" => some (·.bind completionRequest?)
  | "completionItem/resolve" =>
      some fun params => (params.bind CompletionItem.ofJson?).map .resolve
  | _ => none

def notification? (method : String) (params : Option Json) : Option Notification :=
  match method with
  | "initialized" => (params.bind (Shape.record true []).fit?).map fun _ => .initialized
  | "textDocument/didOpen" => params.bind openNotification?
  | "textDocument/didChange" => params.bind changeNotification?
  | "textDocument/didClose" => params.bind closeNotification?
  | "workspace/didChangeConfiguration" => params.bind configurationNotification?
  | "workspace/didChangeWatchedFiles" => params.bind watchedNotification?
  | _ => none

end TemplateServer.Protocol
