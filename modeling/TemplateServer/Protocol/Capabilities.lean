import TemplateServer.Protocol.Shape

/-!
What a client says that it can do. The server makes no use of it, but a client
has to say it in the form of the protocol.
-/

namespace TemplateServer.Protocol.Shape

def registration : Shape := options [("dynamicRegistration", .boolean)]

def refresh : Shape := options [("refreshSupport", .boolean)]

def valueSet (item : Shape) : Shape := options [("valueSet", .list item)]

def resolvable : Shape := whole [("properties", .list .text)]

/-- Tags that a client knows. It may also just say whether it knows any. -/
def tagSupport : String × Presence × Shape :=
  ("tagSupport", .trailing, .either .boolean (whole [("valueSet", .list integer32)]))

def editCapabilities : Shape :=
  options
    [("documentChanges", .boolean),
      ("resourceOperations", .list (.word ["create", "rename", "delete"])),
      ("failureHandling", .word ["abort", "transactional", "textOnlyTransactional", "undo"]),
      ("normalizesLineEndings", .boolean),
      ("changeAnnotationSupport", options [("groupsOnLabel", .boolean)])]

def symbolCapabilities : Shape :=
  .record true
    [optional "dynamicRegistration" .boolean, optional "symbolKind" (valueSet integer32),
      tagSupport, optional "resolveSupport" resolvable]

def fileCapabilities : Shape :=
  options
    [("dynamicRegistration", .boolean), ("didCreate", .boolean), ("willCreate", .boolean),
      ("didRename", .boolean), ("willRename", .boolean), ("didDelete", .boolean),
      ("willDelete", .boolean)]

def workspaceCapabilities : Shape :=
  options
    [("applyEdit", .boolean), ("workspaceEdit", editCapabilities),
      ("didChangeConfiguration", registration),
      ("didChangeWatchedFiles",
        options [("dynamicRegistration", .boolean), ("relativePatternSupport", .boolean)]),
      ("symbol", symbolCapabilities), ("executeCommand", registration),
      ("workspaceFolders", .boolean), ("configuration", .boolean), ("semanticTokens", refresh),
      ("codeLens", refresh), ("fileOperations", fileCapabilities), ("inlineValue", refresh),
      ("inlayHint", refresh), ("diagnostics", refresh)]

def completionItemCapabilities : Shape :=
  .record true
    [optional "snippetSupport" .boolean, optional "commitCharactersSupport" .boolean,
      optional "documentationFormat" (.list markupKind), optional "deprecatedSupport" .boolean,
      optional "preselectSupport" .boolean, tagSupport, optional "insertReplaceSupport" .boolean,
      optional "resolveSupport" resolvable,
      optional "insertTextModeSupport" (whole [("valueSet", .list integer32)]),
      optional "labelDetailsSupport" .boolean]

def completionCapabilities : Shape :=
  options
    [("dynamicRegistration", .boolean), ("completionItem", completionItemCapabilities),
      ("completionItemKind", valueSet integer32), ("contextSupport", .boolean),
      ("insertTextMode", integer32),
      ("completionList", options [("itemDefaults", .list .text)])]

def signatureCapabilities : Shape :=
  options
    [("dynamicRegistration", .boolean),
      ("signatureInformation",
        options
          [("documentationFormat", .list markupKind),
            ("parameterInformation", options [("labelOffsetSupport", .boolean)]),
            ("activeParameterSupport", .boolean)]),
      ("contextSupport", .boolean)]

def outlineCapabilities : Shape :=
  .record true
    [optional "dynamicRegistration" .boolean, optional "symbolKind" (valueSet integer32),
      optional "hierarchicalDocumentSymbolSupport" .boolean, tagSupport]

def gotoCapabilities : Shape :=
  options [("dynamicRegistration", .boolean), ("linkSupport", .boolean)]

def codeActionCapabilities : Shape :=
  options
    [("dynamicRegistration", .boolean),
      ("codeActionLiteralSupport",
        whole [("codeActionKind", whole [("valueSet", .list .text)])]),
      ("isPreferredSupport", .boolean), ("disabledSupport", .boolean),
      ("dataSupport", .boolean), ("resolveSupport", resolvable),
      ("honorsChangeAnnotations", .boolean)]

def renameCapabilities : Shape :=
  options
    [("dynamicRegistration", .boolean), ("prepareSupport", .boolean),
      ("prepareSupportDefaultBehavior", integer32), ("honorsChangeAnnotations", .boolean)]

def diagnosticsCapabilities : Shape :=
  .record true
    [optional "relatedInformation" .boolean, tagSupport, optional "versionSupport" .boolean,
      optional "codeDescriptionSupport" .boolean, optional "dataSupport" .boolean]

def foldingCapabilities : Shape :=
  options
    [("dynamicRegistration", .boolean), ("rangeLimit", natural32), ("lineFoldingOnly", .boolean),
      ("foldingRangeKind", valueSet (.word ["comment", "imports", "region"])),
      ("foldingRange", options [("collapsedText", .boolean)])]

def tokenCapabilities : Shape :=
  .record true
    [optional "dynamicRegistration" .boolean,
      required "requests"
        (options
          [("range", .boolean),
            ("full", .either .boolean (.record false [optional "delta" .boolean]))]),
      required "tokenTypes" (.list .text), required "tokenModifiers" (.list .text),
      required "formats" (.list .text), optional "overlappingTokenSupport" .boolean,
      optional "multilineTokenSupport" .boolean, optional "serverCancelSupport" .boolean,
      optional "augmentsSyntaxTokens" .boolean]

def documentCapabilities : Shape :=
  options
    [("synchronization",
        options
          [("dynamicRegistration", .boolean), ("willSave", .boolean),
            ("willSaveWaitUntil", .boolean), ("didSave", .boolean)]),
      ("completion", completionCapabilities),
      ("hover",
        options [("dynamicRegistration", .boolean), ("contentFormat", .list markupKind)]),
      ("signatureHelp", signatureCapabilities), ("references", registration),
      ("documentHighlight", registration), ("documentSymbol", outlineCapabilities),
      ("formatting", registration), ("rangeFormatting", registration),
      ("onTypeFormatting", registration), ("declaration", gotoCapabilities),
      ("definition", gotoCapabilities), ("typeDefinition", gotoCapabilities),
      ("implementation", gotoCapabilities), ("codeAction", codeActionCapabilities),
      ("codeLens", registration),
      ("documentLink",
        options [("dynamicRegistration", .boolean), ("tooltipSupport", .boolean)]),
      ("colorProvider", registration), ("rename", renameCapabilities),
      ("publishDiagnostics", diagnosticsCapabilities), ("foldingRange", foldingCapabilities),
      ("selectionRange", registration), ("linkedEditingRange", registration),
      ("callHierarchy", registration), ("semanticTokens", tokenCapabilities),
      ("moniker", registration), ("typeHierarchy", registration), ("inlineValue", registration),
      ("inlayHint",
        options [("dynamicRegistration", .boolean), ("resolveSupport", resolvable)]),
      ("diagnostic",
        options [("dynamicRegistration", .boolean), ("relatedDocumentSupport", .boolean)])]

def notebookCapabilities : Shape :=
  whole
    [("synchronization",
      options [("dynamicRegistration", .boolean), ("executionSummaryReport", .boolean)])]

def windowCapabilities : Shape :=
  options
    [("workDoneProgress", .boolean),
      ("showMessage",
        options
          [("messageActionItem", options [("additionalPropertiesSupport", .boolean)])]),
      ("showDocument", whole [("support", .boolean)])]

def generalCapabilities : Shape :=
  options
    [("regularExpressions",
        .record true [required "engine" .text, optional "version" .text]),
      ("markdown",
        .record true
          [required "parser" .text, optional "version" .text,
            optional "allowedTags" (.list .text)]),
      ("staleRequestSupport",
        whole [("cancel", .boolean), ("retryOnContentModified", .list .text)]),
      ("positionEncodings", .list .text)]

def clientCapabilities : Shape :=
  options
    [("workspace", workspaceCapabilities), ("textDocument", documentCapabilities),
      ("notebookDocument", notebookCapabilities), ("window", windowCapabilities),
      ("general", generalCapabilities), ("offsetEncoding", .list .text), ("experimental", .any)]

end TemplateServer.Protocol.Shape
