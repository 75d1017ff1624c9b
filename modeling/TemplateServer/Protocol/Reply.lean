import TemplateServer.Server.Session

/-!
Replies and messages as the protocol writes them.
-/

namespace TemplateServer.Protocol

def positionJson (position : Text.Position) : Json :=
  .object [("character", .natural position.column), ("line", .natural position.line)]

def rangeJson (range : Text.Range) : Json :=
  .object [("end", positionJson range.stop), ("start", positionJson range.start)]

def targetJson (target : Target) : Json :=
  .object [("range", rangeJson target.range), ("uri", .string target.url.text)]

def completionListJson (items : List CompletionItem) : Json :=
  .object [("isIncomplete", .bool false), ("items", .array (items.map CompletionItem.toJson))]

def serverName : String := "marko-ls"

def serverVersion : String := "0.1.0"

def triggerCharacters : List String := [".", ":", "<", "\"", "'", "/", "@", "*"]

/-- What the server can do. Changes are sent as edits of ranges. -/
def capabilitiesJson : Json :=
  .object
    [("capabilities",
        .object
          [("completionProvider",
              .object
                [("resolveProvider", .bool true),
                  ("triggerCharacters", .array (triggerCharacters.map .string))]),
            ("definitionProvider", .bool true),
            ("textDocumentSync", .object [("change", .natural 2), ("openClose", .bool true)])]),
      ("serverInfo",
        .object [("name", .string serverName), ("version", .string serverVersion)])]

def replyJson : Reply → Json
  | .nothing => .null
  | .capabilities => capabilitiesJson
  | .locations targets => .array (targets.map targetJson)
  | .completions items => completionListJson items
  | .item item => item.toJson

def messageJson : ClientMessage → String × Json
  | .log isWarning text =>
      ("window/logMessage",
        .object [("message", .string text), ("type", .natural (if isWarning then 2 else 3))])
  | .watchFiles patterns =>
      let watchers := patterns.map fun pattern => Json.object [("globPattern", .string pattern)]
      ("client/registerCapability",
        .object
          [("registrations",
            .array
              [.object
                [("id", .string "marko-ls/watch-taglibs"),
                  ("method", .string "workspace/didChangeWatchedFiles"),
                  ("registerOptions", .object [("watchers", .array watchers)])]])])

end TemplateServer.Protocol
