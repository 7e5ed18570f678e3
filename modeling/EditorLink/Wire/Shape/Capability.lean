import EditorLink.Wire.Shape
/-!
# Shapes of capabilities

What messages carry of the things that an editor and a server say they can do.
-/
namespace EditorLink.Wire.Shape

/-! ## Editors -/

/-- Flags that say what an editor can do, and whether the server may ask for it later. -/
def dynamic (flags : List String) : Shape := exactly (plain ("dynamicRegistration" :: flags))

def known : Shape := exactly (plain ["valueSet"])

/-- The members that an editor lets the server fill in later. -/
def resolvable : Shape := exactly (plain ["properties"])

def release : Shape := exactly (plain ["name", "version"])

/-- What an editor can do with completions. -/
def editorCompletion : Shape :=
  exactly (plain ["dynamicRegistration", "insertTextMode", "contextSupport"] ++
    [("completionItem", exactly (plain ["snippetSupport", "commitCharactersSupport",
        "documentationFormat", "deprecatedSupport", "preselectSupport", "insertReplaceSupport",
        "labelDetailsSupport"] ++
        [("tagSupport", known), ("resolveSupport", resolvable), ("insertTextModeSupport", known)])),
      ("completionItemKind", known),
      ("completionList", exactly (plain ["itemDefaults", "applyKindSupport"]))])

/-- What an editor can do with signature help. -/
def editorSignatureHelp : Shape :=
  exactly (plain ["dynamicRegistration", "contextSupport"] ++
    [("signatureInformation",
      exactly (plain ["documentationFormat", "activeParameterSupport", "noActiveParameterSupport"] ++
        [("parameterInformation", exactly (plain ["labelOffsetSupport"]))]))])

/-- What an editor can do with code actions. -/
def editorCodeAction : Shape :=
  exactly (plain ["dynamicRegistration", "isPreferredSupport", "disabledSupport", "dataSupport",
      "honorsChangeAnnotations", "documentationSupport"] ++
    [("codeActionLiteralSupport", exactly [("codeActionKind", known)]),
      ("resolveSupport", resolvable), ("tagSupport", known)])

/-- What an editor can do with the symbols of a document. -/
def editorSymbols : Shape :=
  exactly (plain ["dynamicRegistration", "hierarchicalDocumentSymbolSupport", "labelSupport"] ++
    [("symbolKind", known), ("tagSupport", known)])

/-- What an editor can do with parts of a document that fold. -/
def editorFolding : Shape :=
  exactly (plain ["dynamicRegistration", "rangeLimit", "lineFoldingOnly"] ++
    [("foldingRangeKind", known), ("foldingRange", exactly (plain ["collapsedText"]))])

/-- What an editor can do with the meaning of words. -/
def editorTokens : Shape :=
  exactly (plain ["dynamicRegistration", "tokenTypes", "tokenModifiers", "formats",
      "overlappingTokenSupport", "multilineTokenSupport", "serverCancelSupport",
      "augmentsSyntaxTokens"] ++
    [("requests", exactly [("range", exactly []), ("full", exactly (plain ["delta"]))])])

def editorDiagnostics (flags : List String) : Shape :=
  exactly (plain (["relatedInformation", "codeDescriptionSupport", "dataSupport"] ++ flags) ++
    [("tagSupport", known)])

/-- What an editor can do with documents. -/
def editorDocuments : Shape := exactly [
  ("synchronization", dynamic ["willSave", "willSaveWaitUntil", "didSave"]),
  ("filters", exactly (plain ["relativePatternSupport"])),
  ("completion", editorCompletion),
  ("hover", dynamic ["contentFormat"]),
  ("signatureHelp", editorSignatureHelp),
  ("declaration", dynamic ["linkSupport"]),
  ("definition", dynamic ["linkSupport"]),
  ("typeDefinition", dynamic ["linkSupport"]),
  ("implementation", dynamic ["linkSupport"]),
  ("references", dynamic []),
  ("documentHighlight", dynamic []),
  ("documentSymbol", editorSymbols),
  ("codeAction", editorCodeAction),
  ("codeLens", exactly (plain ["dynamicRegistration"] ++ [("resolveSupport", resolvable)])),
  ("documentLink", dynamic ["tooltipSupport"]),
  ("colorProvider", dynamic []),
  ("formatting", dynamic []),
  ("rangeFormatting", dynamic ["rangesSupport"]),
  ("onTypeFormatting", dynamic []),
  ("rename", dynamic ["prepareSupport", "prepareSupportDefaultBehavior", "honorsChangeAnnotations"]),
  ("foldingRange", editorFolding),
  ("selectionRange", dynamic []),
  ("publishDiagnostics", editorDiagnostics ["versionSupport"]),
  ("callHierarchy", dynamic []),
  ("semanticTokens", editorTokens),
  ("linkedEditingRange", dynamic []),
  ("moniker", dynamic []),
  ("typeHierarchy", dynamic []),
  ("inlineValue", dynamic []),
  ("inlayHint", exactly (plain ["dynamicRegistration"] ++ [("resolveSupport", resolvable)])),
  ("diagnostic", editorDiagnostics ["dynamicRegistration", "relatedDocumentSupport"]),
  ("inlineCompletion", dynamic [])]

/-- Whether an editor asks again when the server says so. -/
def refreshing : Shape := exactly (plain ["refreshSupport"])

/-- What an editor can do with all documents together. -/
def editorWorkspace : Shape := exactly (plain ["applyEdit", "workspaceFolders", "configuration"] ++ [
  ("workspaceEdit", exactly (plain ["documentChanges", "resourceOperations", "failureHandling",
    "normalizesLineEndings", "metadataSupport", "snippetEditSupport"] ++
    [("changeAnnotationSupport", exactly (plain ["groupsOnLabel"]))])),
  ("didChangeConfiguration", dynamic []),
  ("didChangeWatchedFiles", dynamic ["relativePatternSupport"]),
  ("symbol", exactly (plain ["dynamicRegistration"] ++
    [("symbolKind", known), ("tagSupport", known), ("resolveSupport", resolvable)])),
  ("executeCommand", dynamic []),
  ("semanticTokens", refreshing),
  ("codeLens", refreshing),
  ("fileOperations", dynamic ["didCreate", "willCreate", "didRename", "willRename", "didDelete",
    "willDelete"]),
  ("inlineValue", refreshing),
  ("inlayHint", refreshing),
  ("diagnostics", refreshing),
  ("foldingRange", refreshing),
  ("textDocumentContent", dynamic [])])

/-- What an editor can do. -/
def editor : Shape := exactly (plain ["experimental"] ++ [
  ("workspace", editorWorkspace),
  ("textDocument", editorDocuments),
  ("notebookDocument", exactly [("synchronization", dynamic ["executionSummarySupport"])]),
  ("window", exactly (plain ["workDoneProgress"] ++
    [("showMessage", exactly [("messageActionItem", exactly (plain ["additionalPropertiesSupport"]))]),
      ("showDocument", exactly (plain ["support"]))])),
  ("general", exactly (plain ["positionEncodings"] ++
    [("staleRequestSupport", exactly (plain ["cancel", "retryOnContentModified"])),
      ("regularExpressions", exactly (plain ["engine", "version"])),
      ("markdown", exactly (plain ["parser", "version", "allowedTags"]))]))])

/-! ## Servers -/

/-- Something that a server offers with some details. -/
def offered (details : List String) : Shape := exactly (plain ("workDoneProgress" :: details))

/-- Something that a server offers, maybe for some documents only. The documents always
stand where they may be limited. -/
def limited (details : List (String × Shape)) : Shape :=
  let members := plain ["workDoneProgress"] ++ details
  choice (fun v => has "id" v || has "documentSelector" v)
    (record (plain ["id", "documentSelector"] ++ members) [("documentSelector", .null)])
    (exactly members)

/-- What a server wants to know about files that come and go. -/
def fileFilters : Shape :=
  exactly [("filters", listOf (exactly (plain ["scheme"] ++
    [("pattern", exactly (plain ["glob", "matches"] ++
      [("options", exactly (plain ["ignoreCase"]))]))])))]

/-- What a server can do with all documents together. -/
def serverWorkspace : Shape := exactly [
  ("workspaceFolders", exactly (plain ["supported", "changeNotifications"])),
  ("fileOperations", exactly (["didCreate", "willCreate", "didRename", "willRename", "didDelete",
    "willDelete"].map (·, fileFilters))),
  ("textDocumentContent", exactly (plain ["id", "schemes"]))]

/-- What a server can do. -/
def server : Shape := exactly (plain ["positionEncoding", "experimental"] ++ [
  ("textDocumentSync", exactly (plain ["openClose", "change", "willSave", "willSaveWaitUntil"] ++
    [("save", exactly (plain ["includeText"]))])),
  ("notebookDocumentSync", exactly (plain ["notebookSelector", "save", "id"])),
  ("completionProvider", exactly (plain ["workDoneProgress", "triggerCharacters",
    "allCommitCharacters", "resolveProvider"] ++
    [("completionItem", exactly (plain ["labelDetailsSupport"]))])),
  ("hoverProvider", offered []),
  ("signatureHelpProvider", offered ["triggerCharacters", "retriggerCharacters"]),
  ("declarationProvider", limited []),
  ("definitionProvider", offered []),
  ("typeDefinitionProvider", limited []),
  ("implementationProvider", limited []),
  ("referencesProvider", offered []),
  ("documentHighlightProvider", offered []),
  ("documentSymbolProvider", offered ["label"]),
  ("codeActionProvider", exactly (plain ["workDoneProgress", "codeActionKinds", "resolveProvider"] ++
    [("documentation", listOf (exactly (plain ["kind"] ++
      [("command", exactly (plain ["title", "tooltip", "command", "arguments"]))])))])),
  ("codeLensProvider", offered ["resolveProvider"]),
  ("documentLinkProvider", offered ["resolveProvider"]),
  ("colorProvider", limited []),
  ("workspaceSymbolProvider", offered ["resolveProvider"]),
  ("documentFormattingProvider", offered []),
  ("documentRangeFormattingProvider", offered ["rangesSupport"]),
  ("documentOnTypeFormattingProvider",
    exactly (plain ["firstTriggerCharacter", "moreTriggerCharacter"])),
  ("renameProvider", offered ["prepareProvider"]),
  ("foldingRangeProvider", limited []),
  ("selectionRangeProvider", limited []),
  ("executeCommandProvider", offered ["commands"]),
  ("callHierarchyProvider", limited []),
  ("linkedEditingRangeProvider", limited []),
  ("semanticTokensProvider", limited [
    ("legend", exactly (plain ["tokenTypes", "tokenModifiers"])),
    ("range", exactly []),
    ("full", exactly (plain ["delta"]))]),
  ("monikerProvider", limited []),
  ("typeHierarchyProvider", limited []),
  ("inlineValueProvider", limited []),
  ("inlayHintProvider", limited (plain ["resolveProvider"])),
  ("diagnosticProvider", limited (plain ["identifier", "interFileDependencies",
    "workspaceDiagnostics"])),
  ("inlineCompletionProvider", offered []),
  ("workspace", serverWorkspace)])

end EditorLink.Wire.Shape
