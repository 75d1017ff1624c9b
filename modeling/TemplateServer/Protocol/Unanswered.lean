import TemplateServer.Protocol.Params

/-!
The methods of the protocol that this server does nothing about. The parameters
of a request are looked at all the same: a request whose parameters do not fit is
told so, and only one that fits is told that there is no such method here.
-/

namespace TemplateServer.Protocol

namespace Shape

def withWorkDone (members : List (String × Shape)) : Shape :=
  .record false ((members.map fun (name, shape) => required name shape) ++ [workDone])

def withTokens (members : List (String × Shape)) : Shape :=
  .record false
    ((members.map fun (name, shape) => required name shape) ++ [workDone, partialResult])

def hierarchyItem (tags : Shape) : Shape :=
  .record true
    [required "name" .text, required "kind" integer32, optional "tags" tags,
      optional "detail" .text, required "uri" .address, required "range" range,
      required "selectionRange" range, optional "data" .any]

/-- How to format. A client may add settings of its own. -/
def formattingOptions : Shape :=
  .extended
    (.record false
      [required "tabSize" natural32, required "insertSpaces" .boolean,
        optional "trimTrailingWhitespace" .boolean, optional "insertFinalNewline" .boolean,
        optional "trimFinalNewlines" .boolean])
    ["tabSize", "insertSpaces", "trimTrailingWhitespace", "insertFinalNewline",
      "trimFinalNewlines"]
    (.either .boolean (.either integer32 .text))

def diagnostic : Shape :=
  .record true
    [required "range" range, optional "severity" integer32,
      optional "code" (.either integer32 .text),
      optional "codeDescription" (whole [("href", .address)]), optional "source" .text,
      required "message" .text,
      optional "relatedInformation"
        (.list (whole [("location", location), ("message", .text)])),
      optional "tags" (.list integer32), optional "data" .any]

def codeActionContext : Shape :=
  .record true
    [required "diagnostics" (.list diagnostic), optional "only" (.list .text),
      optional "triggerKind" integer32]

def documentEdit : Shape :=
  whole
    [("textDocument", .record true [required "uri" .address, optional "version" integer32]),
      ("edits", .list textEdit)]

def fileOperation : Shape :=
  let replacing := options [("overwrite", .boolean), ("ignoreIfExists", .boolean)]
  .either
    (.record true
      [required "kind" (.literal "create"), required "uri" .address,
        optional "options" replacing, optional "annotationId" .text])
    (.either
      (.record true
        [required "kind" (.literal "rename"), required "oldUri" .address,
          required "newUri" .address, optional "options" replacing,
          optional "annotationId" .text])
      (.record true
        [required "kind" (.literal "delete"), required "uri" .address,
          optional "options"
            (options
              [("recursive", .boolean), ("ignoreIfNotExists", .boolean),
                ("annotationId", .text)])]))

def workspaceEdit : Shape :=
  .record true
    [("changes", .trailing, .dictionary true (.list textEdit)),
      optional "documentChanges" (.list (.either fileOperation documentEdit)),
      optional "changeAnnotations"
        (.dictionary false
          (.record true
            [required "label" .text, optional "needsConfirmation" .boolean,
              optional "description" .text]))]

def codeAction : Shape :=
  .record true
    [required "title" .text, optional "kind" .text, optional "diagnostics" (.list diagnostic),
      optional "edit" workspaceEdit, optional "command" command,
      optional "isPreferred" .boolean, optional "disabled" (whole [("reason", .text)]),
      optional "data" .any]

def signatureContext : Shape :=
  let parameter : Shape :=
    .record true
      [required "label" (.either .text (.sized 2 natural32)),
        optional "documentation" documentation]
  let signature : Shape :=
    .record true
      [required "label" .text, optional "documentation" documentation,
        optional "parameters" (.list parameter), optional "activeParameter" natural32]
  .record true
    [required "triggerKind" integer32, optional "triggerCharacter" .text,
      required "isRetrigger" .boolean,
      optional "activeSignatureHelp"
        (.record true
          [required "signatures" (.list signature), optional "activeSignature" natural32,
            optional "activeParameter" natural32])]

def inlayHint : Shape :=
  let part : Shape :=
    .record true
      [required "value" .text, optional "tooltip" documentation, optional "location" location,
        optional "command" command]
  .record true
    [required "position" position, required "label" (.either .text (.list part)),
      optional "kind" integer32, optional "textEdits" (.list textEdit),
      optional "tooltip" documentation, optional "paddingLeft" .boolean,
      optional "paddingRight" .boolean, optional "data" .any]

def workspaceSymbol : Shape :=
  .record true
    [required "name" .text, required "kind" integer32, optional "tags" (.list integer32),
      optional "containerName" .text, required "location" (.either location document),
      optional "data" .any]

def color : Shape :=
  whole [("red", .number), ("green", .number), ("blue", .number), ("alpha", .number)]

end Shape

open Shape in
def unansweredAtPosition : List (Shape × List String) :=
  [(positionParams [workDone, partialResult],
      ["textDocument/declaration", "textDocument/typeDefinition", "textDocument/implementation",
        "textDocument/documentHighlight", "textDocument/moniker"]),
    (positionParams [workDone],
      ["textDocument/prepareCallHierarchy", "textDocument/prepareTypeHierarchy",
        "textDocument/hover", "textDocument/linkedEditingRange"]),
    (whole [("textDocument", document), ("position", position)],
      ["textDocument/prepareRename"]),
    (positionParams
        [required "context" (whole [("includeDeclaration", .boolean)]), workDone, partialResult],
      ["textDocument/references"]),
    (positionParams [optional "context" signatureContext, workDone],
      ["textDocument/signatureHelp"]),
    (positionParams [required "newName" .text, workDone], ["textDocument/rename"]),
    (positionParams [required "ch" .text, required "options" formattingOptions],
      ["textDocument/onTypeFormatting"])]

open Shape in
def unansweredInDocument : List (Shape × List String) :=
  let document := ("textDocument", Shape.document)
  let range := ("range", Shape.range)
  let options := ("options", formattingOptions)
  [(withTokens [document],
      ["textDocument/documentLink", "textDocument/codeLens", "textDocument/foldingRange",
        "textDocument/documentSymbol", "textDocument/semanticTokens/full",
        "textDocument/documentColor"]),
    (withTokens [document, range], ["textDocument/semanticTokens/range"]),
    (withWorkDone [document, range], ["textDocument/inlayHint"]),
    (withTokens [document, ("positions", .list position)], ["textDocument/selectionRange"]),
    (withTokens [document, ("previousResultId", .text)],
      ["textDocument/semanticTokens/full/delta"]),
    (withWorkDone
        [document, range,
          ("context", whole [("frameId", integer32), ("stoppedLocation", Shape.range)])],
      ["textDocument/inlineValue"]),
    (withTokens [document, range, ("context", codeActionContext)], ["textDocument/codeAction"]),
    (withTokens [document, ("color", color), range], ["textDocument/colorPresentation"]),
    (withWorkDone [document, options], ["textDocument/formatting"]),
    (withWorkDone [document, range, options], ["textDocument/rangeFormatting"]),
    (whole [document, ("reason", integer32)], ["textDocument/willSaveWaitUntil"]),
    (.record false
        [required "textDocument" Shape.document, optional "identifier" .text,
          optional "previousResultId" .text, workDone, partialResult],
      ["textDocument/diagnostic"])]

open Shape in
def unansweredElsewhere : List (Shape × List String) :=
  [(withTokens [("item", hierarchyItem (.list integer32))],
      ["callHierarchy/incomingCalls", "callHierarchy/outgoingCalls"]),
    (withTokens [("item", hierarchyItem integer32)],
      ["typeHierarchy/supertypes", "typeHierarchy/subtypes"]),
    (.record false
        [optional "identifier" .text,
          required "previousResultIds" (.list (whole [("uri", .address), ("value", .text)])),
          workDone, partialResult],
      ["workspace/diagnostic"]),
    (withTokens [("query", .text)], ["workspace/symbol"]),
    (.record false
        [required "command" .text, ("arguments", .omittable, .list .any), workDone],
      ["workspace/executeCommand"]),
    (whole [("files", .list (whole [("uri", .text)]))],
      ["workspace/willCreateFiles", "workspace/willDeleteFiles"]),
    (whole [("files", .list (whole [("oldUri", .text), ("newUri", .text)]))],
      ["workspace/willRenameFiles"]),
    (.record true
        [required "range" range, optional "target" .address, optional "tooltip" .text,
          optional "data" .any],
      ["documentLink/resolve"]),
    (.record true [required "range" range, optional "command" command, optional "data" .any],
      ["codeLens/resolve"]),
    (codeAction, ["codeAction/resolve"]),
    (inlayHint, ["inlayHint/resolve"]),
    (workspaceSymbol, ["workspaceSymbol/resolve"])]

def unansweredShape? (method : String) : Option Shape :=
  ((unansweredAtPosition ++ unansweredInDocument ++ unansweredElsewhere).find?
    fun (_, methods) => methods.contains method).map (·.1)

def notificationMethods : List String :=
  ["initialized", "textDocument/didOpen", "textDocument/didChange", "textDocument/willSave",
    "textDocument/didSave", "textDocument/didClose", "notebookDocument/didOpen",
    "notebookDocument/didChange", "notebookDocument/didSave", "notebookDocument/didClose",
    "workspace/didChangeConfiguration", "workspace/didChangeWorkspaceFolders",
    "workspace/didCreateFiles", "workspace/didRenameFiles", "workspace/didDeleteFiles",
    "workspace/didChangeWatchedFiles"]

def cancelMethod : String := "$/cancelRequest"

/-- Whether a method may be passed over by those who do not know it. -/
def isIgnorable (method : String) : Bool := ['$', '/'].isPrefixOf method.toList

end TemplateServer.Protocol
