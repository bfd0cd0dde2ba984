import LanguageClient.Json.Reading

namespace LanguageClient.Protocol

abbrev Progress := Option Bool

inductive Provider
  | simple (b : Bool)
  | options (progress : Progress)
  deriving DecidableEq, Repr

namespace Provider

def readOptions (type : String) : Reader Provider :=
  Fields.objectOnly type (Provider.options <$> Fields.optional "workDoneProgress" Reader.bool)

def read (union type : String) : Reader Provider :=
  Reader.firstOf union [fun j => (Reader.bool j).map .simple, readOptions type]

def toJson : Provider → Json
  | .simple b => .bool b
  | .options progress => .objectOf [("workDoneProgress", progress.map .bool)]

end Provider

inductive SaveSupport
  | simple (b : Bool)
  | options (includeText : Option Bool)
  deriving DecidableEq, Repr

namespace SaveSupport

def readOptions : Reader SaveSupport :=
  Fields.record "SaveOptions" (SaveSupport.options <$> Fields.optional "includeText" Reader.bool)

def read : Reader SaveSupport :=
  Reader.firstOf "TextDocumentSyncSaveOptions" [fun j => (Reader.bool j).map .simple, readOptions]

def toJson : SaveSupport → Json
  | .simple b => .bool b
  | .options includeText => .objectOf [("includeText", includeText.map .bool)]

end SaveSupport

structure SyncOptions where
  openClose         : Option Bool
  change            : Option Int
  willSave          : Option Bool
  willSaveWaitUntil : Option Bool
  save              : Option SaveSupport
  deriving DecidableEq, Repr

namespace SyncOptions

def fields : Fields SyncOptions :=
  SyncOptions.mk <$> Fields.optional "openClose" Reader.bool
    <*> Fields.optional "change" Reader.int32 <*> Fields.optional "willSave" Reader.bool
    <*> Fields.optional "willSaveWaitUntil" Reader.bool <*> Fields.optional "save" SaveSupport.read

def toJson (o : SyncOptions) : Json :=
  .objectOf
    [ ("openClose", o.openClose.map .bool),
      ("change", o.change.map .int),
      ("willSave", o.willSave.map .bool),
      ("willSaveWaitUntil", o.willSaveWaitUntil.map .bool),
      ("save", o.save.map SaveSupport.toJson) ]

end SyncOptions

inductive Sync
  | kind (n : Int)
  | options (o : SyncOptions)
  deriving DecidableEq, Repr

namespace Sync

def read : Reader Sync :=
  Reader.firstOf "TextDocumentSyncCapability"
    [ fun j => (Reader.int32 j).map .kind,
      fun j => (Fields.record "TextDocumentSyncOptions" SyncOptions.fields j).map .options ]

def toJson : Sync → Json
  | .kind n => .int n
  | .options o => o.toJson

end Sync

structure CompletionOptions where
  resolveProvider     : Option Bool
  triggerCharacters   : Option (List String)
  allCommitCharacters : Option (List String)
  progress            : Progress
  labelDetails        : Option (Option Bool)
  deriving DecidableEq, Repr

namespace CompletionOptions

def readLabelDetails : Reader (Option Bool) :=
  Fields.record "CompletionOptionsCompletionItem" <|
    Fields.optional "labelDetailsSupport" Reader.bool

def fields : Fields CompletionOptions :=
  CompletionOptions.mk <$> Fields.optional "resolveProvider" Reader.bool
    <*> Fields.optional "triggerCharacters" (Reader.list Reader.string)
    <*> Fields.optional "allCommitCharacters" (Reader.list Reader.string)
    <*> Fields.optional "workDoneProgress" Reader.bool
    <*> Fields.optional "completionItem" readLabelDetails

def read : Reader CompletionOptions := Fields.objectOnly "CompletionOptions" fields

def toJson (o : CompletionOptions) : Json :=
  let texts (ts : List String) : Json := .arr (ts.map .str)
  .objectOf
    [ ("resolveProvider", o.resolveProvider.map .bool),
      ("triggerCharacters", o.triggerCharacters.map texts),
      ("allCommitCharacters", o.allCommitCharacters.map texts),
      ("workDoneProgress", o.progress.map .bool),
      ("completionItem", o.labelDetails.map fun b =>
        .objectOf [("labelDetailsSupport", b.map .bool)]) ]

end CompletionOptions

structure ServerCapabilities where
  positionEncoding   : Option String
  textDocumentSync   : Option Sync
  hoverProvider      : Option Provider
  completionProvider : Option CompletionOptions
  definitionProvider : Option Provider
  experimental       : Option Json

namespace ServerCapabilities

-- Members that are part of the record but not kept.
def notKept (names : List String) : Fields PUnit where
  slots := names.map fun name => ⟨name, fun _ => none⟩
  build _ := .ok ⟨⟩

def fields : Fields ServerCapabilities :=
  (fun encoding sync _ hover completion _ definition _ experimental =>
      ServerCapabilities.mk encoding sync hover completion definition experimental)
    <$> Fields.optional "positionEncoding" Reader.string
    <*> Fields.optional "textDocumentSync" Sync.read
    <*> notKept ["notebookDocumentSync", "selectionRangeProvider"]
    <*> Fields.optional "hoverProvider" (Provider.read "HoverProviderCapability" "HoverOptions")
    <*> Fields.optional "completionProvider" CompletionOptions.read
    <*> notKept ["signatureHelpProvider"]
    <*> Fields.optional "definitionProvider" (Provider.read "OneOf" "DefinitionOptions")
    <*> notKept
      [ "typeDefinitionProvider", "implementationProvider", "referencesProvider",
        "documentHighlightProvider", "documentSymbolProvider", "workspaceSymbolProvider",
        "codeActionProvider", "codeLensProvider", "documentFormattingProvider",
        "documentRangeFormattingProvider", "documentOnTypeFormattingProvider", "renameProvider",
        "documentLinkProvider", "colorProvider", "foldingRangeProvider", "declarationProvider",
        "executeCommandProvider", "workspace", "callHierarchyProvider", "semanticTokensProvider",
        "monikerProvider", "linkedEditingRangeProvider", "inlineValueProvider",
        "inlayHintProvider", "diagnosticProvider" ]
    <*> Fields.optional "experimental" Reader.json

def read : Reader ServerCapabilities := Fields.record "ServerCapabilities" fields

def toJson (c : ServerCapabilities) : Json :=
  .objectOf
    [ ("positionEncoding", c.positionEncoding.map .str),
      ("textDocumentSync", c.textDocumentSync.map Sync.toJson),
      ("hoverProvider", c.hoverProvider.map Provider.toJson),
      ("completionProvider", c.completionProvider.map CompletionOptions.toJson),
      ("definitionProvider", c.definitionProvider.map Provider.toJson),
      ("experimental", c.experimental) ]

end ServerCapabilities

structure ServerInfo where
  name    : String
  version : Option String
  deriving DecidableEq, Repr

namespace ServerInfo

def fields : Fields ServerInfo :=
  ServerInfo.mk <$> Fields.required "name" Reader.string <*> Fields.optional "version" Reader.string

def read : Reader ServerInfo := Fields.record "ServerInfo" fields

def toJson (i : ServerInfo) : Json :=
  .objectOf [("name", some (.str i.name)), ("version", i.version.map .str)]

end ServerInfo

structure InitializeResult where
  capabilities : ServerCapabilities
  serverInfo   : Option ServerInfo

namespace InitializeResult

def fields : Fields InitializeResult :=
  InitializeResult.mk <$> Fields.required "capabilities" ServerCapabilities.read
    <*> Fields.optional "serverInfo" ServerInfo.read

def read : Reader InitializeResult := Fields.record "InitializeResult" fields

def toJson (r : InitializeResult) : Json :=
  .objectOf [("capabilities", some r.capabilities.toJson), ("serverInfo", r.serverInfo.map (·.toJson))]

end InitializeResult
end LanguageClient.Protocol
