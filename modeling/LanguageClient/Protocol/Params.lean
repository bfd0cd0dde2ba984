import LanguageClient.Json.Basic
import LanguageClient.Uri.File

namespace LanguageClient.Protocol

def flag : Json := .bool true

def clientCapabilities : Json :=
  .object
    [ ("textDocument", .object
        [ ("synchronization", .object
            [("dynamicRegistration", flag), ("willSave", flag), ("willSaveWaitUntil", flag),
              ("didSave", flag)]),
          ("completion", .object
            [("dynamicRegistration", flag),
              ("completionItem", .object [("snippetSupport", flag)])]),
          ("hover", .object [("contentFormat", .arr [.str "markdown", .str "plaintext"])]) ]),
      ("workspace", .object [("workspaceFolders", flag)]) ]

def initializeParams (root : String) : Json :=
  let uri := Json.str (Uri.File.ofPath root)
  .object
    [ ("processId", .null),
      ("rootUri", uri),
      ("capabilities", clientCapabilities),
      ("trace", .str "verbose"),
      ("workspaceFolders", .arr
        [.object [("uri", uri), ("name", .str (Uri.File.folderName root))]]) ]

def didOpenParams (path text language : String) : Json :=
  .object
    [("textDocument", .object
      [("uri", .str (Uri.File.ofPath path)), ("languageId", .str language), ("version", .int 1),
        ("text", .str text)])]

def didChangeParams (path text : String) (version : Int) : Json :=
  .object
    [ ("textDocument", .object
        [("uri", .str (Uri.File.ofPath path)), ("version", .int version)]),
      ("contentChanges", .arr [.object [("text", .str text)]]) ]

def completionParams (path : String) (line character : Nat) : Json :=
  .object
    [ ("textDocument", .object [("uri", .str (Uri.File.ofPath path))]),
      ("position", .object [("line", .nat line), ("character", .nat character)]),
      ("context", .object [("triggerKind", .int 1)]) ]

end LanguageClient.Protocol
