import LanguageClient.MockServer.Document
import LanguageClient.MockServer.Incoming
import LanguageClient.MockServer.Options
import LanguageClient.Rpc.Message

namespace LanguageClient

structure MockServer where
  options   : MockServer.Options
  documents : List (String × String)
  buffer    : Bytes
  exited    : Bool

namespace MockServer
open Protocol

inductive Output
  | frame (body : String)
  | noise (method : String)
  deriving DecidableEq, Repr

def Output.onOut : Output → String
  | .frame body => Rpc.Frame.encode body
  | .noise method => "mockls: handling " ++ method ++ "\n"

def Output.onErr : Output → String
  | .frame _ => ""
  | .noise method => "mockls: stderr noise for " ++ method ++ "\n"

def new (options : Options) : MockServer := ⟨options, [], [], false⟩

def document? (m : MockServer) (uri : String) : Option String :=
  (m.documents.find? (·.1 = uri)).map (·.2)

def store (m : MockServer) (uri text : String) : MockServer :=
  { m with documents := (uri, text) :: m.documents.filter (·.1 ≠ uri) }

def textOr (default : String) : Option Json → String
  | some (.str s) => s
  | _ => default

def ownMessage (members : List (String × Json)) : Output :=
  .frame (Json.object (("jsonrpc", .str "2.0") :: members)).text

def publication (uri : String) (diagnostics : List Diagnostic) : Output :=
  ownMessage [("method", .str Publish.method), ("params", (Publish.mk uri diagnostics none).toJson)]

-- Publishes what there is to say about a document. A publication that is delayed is not made before
-- the input ends.
def publish (m : MockServer) (uri : String) : List Output :=
  if m.options.noDiagnostics || m.options.diagnosticsDelay > 0 then []
  else [publication uri (scan ((m.document? uri).getD ""))]

def answer (id result : Json) : Output :=
  .frame (Json.obj [("jsonrpc", .str "2.0"), ("id", id), ("result", result)]).text

def refusal (id : Json) (code : Int) (message : String) : Output :=
  .frame (Json.obj [("jsonrpc", .str "2.0"), ("id", id),
    ("error", .obj [("code", .int code), ("message", .str message)])]).text

def introduction : Json :=
  .object
    [ ("capabilities", .object
        [ ("textDocumentSync", .object [("openClose", .bool true), ("change", .int 1)]),
          ("completionProvider", .object [("resolveProvider", .bool false)]) ]),
      ("serverInfo", .object [("name", .str "mockls"), ("version", .str "0.4.1")]) ]

def completionsFor (m : MockServer) (params : Json) : Json :=
  let uri := textOr "" ((params.get? "textDocument").bind (·.get? "uri"))
  let words := vocabulary ((m.document? uri).getD "")
  let items := Json.arr <| words.map fun w =>
    .object [("label", .str w), ("kind", .int 6), ("detail", .str "mockls")]
  if m.options.itemsWrapper then .object [("isIncomplete", .bool false), ("items", items)] else items

def result? (m : MockServer) (method : String) (params : Json) : Option Json :=
  match method with
  | "initialize" => some introduction
  | "shutdown" => some .null
  | "textDocument/completion" => some (m.completionsFor params)
  | _ => none

def questionId : String := "mockls-configuration"

def question : Output :=
  ownMessage
    [ ("id", .str questionId), ("method", .str "workspace/configuration"),
      ("params", .object [("items", .arr [.object [("section", .str "mockls")]])]) ]

def questionsAfter (m : MockServer) (method : String) : List Output :=
  if method = "initialize" && m.options.serverRequest then [question] else []

def request (m : MockServer) (id : Json) (method : String) (params : Json) : List Output :=
  if m.options.hangOn.contains method then []
  else
    (if m.options.logNoise then [.noise method] else []) ++
    if m.options.failOn.contains method then
      [refusal id (-32603) ("mockls: configured to fail on " ++ method)]
    else
      match m.result? method params with
      | none => [refusal id Rpc.methodNotFound ("mockls: method not found: " ++ method)]
      | some result => answer id result :: m.questionsAfter method

def changedText? (params : Json) : Option String :=
  match params.get? "contentChanges" with
  | some (.arr changes) =>
    match changes.getLast?.bind (·.get? "text") with
    | some (.str text) => some text
    | _ => none
  | _ => none

def notification (m : MockServer) (method : String) (params : Json) : MockServer × List Output :=
  match method, params.get? "textDocument" with
  | "textDocument/didOpen", some document =>
    let uri := textOr "" (document.get? "uri")
    let m := m.store uri (textOr "" (document.get? "text"))
    (m, m.publish uri)
  | "textDocument/didChange", some document =>
    let uri := textOr "" (document.get? "uri")
    let m := match changedText? params with
      | some text => m.store uri text
      | none => m
    (m, m.publish uri)
  | "exit", _ => ({ m with exited := true }, [])
  | _, _ => (m, [])

def verdict (error? : Option Json) : String :=
  match error?.bind (·.get? "code") with
  | some (.num (.int code)) =>
    if code ≤ 9223372036854775807 then "declined " ++ toString code else "accepted"
  | _ => "accepted"

def reply (id : Json) (error? : Option Json) : List Output :=
  match id with
  | .str s =>
    if s = questionId then
      [publication "mockls:///server-request" [complaint 0 0 0 .information (verdict error?)]]
    else []
  | _ => []

def handle (m : MockServer) (i : Incoming) : MockServer × List Output :=
  match i.method?, i.id? with
  | some method, some id => (m, m.request id method i.params)
  | some method, none => m.notification method i.params
  | none, some id => (m, reply id i.error?)
  | none, none => (m, [])

-- Handles at most `n` messages of the buffer, and none after the server is told to exit.
def go (m : MockServer) : Nat → MockServer × List Output
  | 0 => (m, [])
  | n + 1 =>
    if m.exited then (m, [])
    else
      match takeBody? m.buffer with
      | none => (m, [])
      | some (body, rest) =>
        let m := { m with buffer := rest }
        let (m, outputs) := match Incoming.ofText? body with
          | some i => m.handle i
          | none => (m, [])
        let (m, later) := go m n
        (m, outputs ++ later)

-- Takes input and handles what is complete. A message has at least one byte, so there are no more
-- messages than bytes.
def feed (m : MockServer) (input : Bytes) : MockServer × List Output :=
  if m.exited then (m, [])
  else go { m with buffer := m.buffer ++ input } (m.buffer.length + input.length)

def run (options : Options) (input : Bytes) : List Output :=
  ((new options).feed input).2

end MockServer
end LanguageClient
