import LanguageClient.Json.Parser
import LanguageClient.Json.Reading

namespace LanguageClient.Rpc

def version : String := "2.0"

def methodNotFound : Int := -32601

inductive RequestId
  | number (n : Int)
  | text (s : String)
  deriving DecidableEq, Repr

namespace RequestId

def toJson : RequestId → Json
  | .number n => .int n
  | .text s => .str s

def shown : RequestId → String
  | .number n => toString n
  | .text s => Text.quoted s

def read : Reader RequestId :=
  Reader.firstOf "RequestId"
    [fun j => (Reader.int64 j).map .number, fun j => (Reader.string j).map .text]

end RequestId

structure ErrorObject where
  code    : Int
  message : String
  data    : Option Json

namespace ErrorObject

def fields : Fields ErrorObject :=
  ErrorObject.mk <$> Fields.required "code" Reader.int64 <*> Fields.required "message" Reader.string
    <*> Fields.optional "data" Reader.json

def read : Reader ErrorObject := Fields.record "ResponseError" fields

def toJson (e : ErrorObject) : Json :=
  .obj <| [("code", .int e.code), ("message", .str e.message)]
    ++ (e.data.map fun d => ("data", d)).toList

end ErrorObject

structure Request where
  version : String
  id      : RequestId
  method  : String
  params  : Json

structure Response where
  version : String
  id      : Option RequestId
  result  : Option Json
  error   : Option ErrorObject

structure Notification where
  version : String
  method  : String
  params  : Json

-- Parameters that are `null` are not written.
def paramsMember : Json → List (String × Json)
  | .null => []
  | params => [("params", params)]

namespace Request

def new (id : Int) (method : String) (params : Json) : Request :=
  ⟨Rpc.version, .number id, method, params⟩

def fields : Fields Request :=
  Request.mk <$> Fields.defaulting "jsonrpc" Reader.string Rpc.version
    <*> Fields.required "id" RequestId.read <*> Fields.required "method" Reader.string
    <*> Fields.defaulting "params" Reader.json .null

def toJson (r : Request) : Json :=
  .obj <| [("jsonrpc", .str r.version), ("id", r.id.toJson), ("method", .str r.method)]
    ++ paramsMember r.params

end Request

namespace Notification

def new (method : String) (params : Json) : Notification := ⟨Rpc.version, method, params⟩

def fields : Fields Notification :=
  Notification.mk <$> Fields.defaulting "jsonrpc" Reader.string Rpc.version
    <*> Fields.required "method" Reader.string <*> Fields.defaulting "params" Reader.json .null

def toJson (n : Notification) : Json :=
  .obj <| [("jsonrpc", .str n.version), ("method", .str n.method)] ++ paramsMember n.params

end Notification

namespace Response

def ofError (id : RequestId) (code : Int) (message : String) : Response :=
  ⟨Rpc.version, some id, none, some ⟨code, message, none⟩⟩

def fields : Fields Response :=
  Response.mk <$> Fields.defaulting "jsonrpc" Reader.string Rpc.version
    <*> Fields.optional "id" RequestId.read <*> Fields.optional "result" Reader.json
    <*> Fields.optional "error" ErrorObject.read

def toJson (r : Response) : Json :=
  .obj <| [("jsonrpc", .str r.version), ("id", (r.id.map RequestId.toJson).getD .null)]
    ++ (r.result.map fun v => ("result", v)).toList
    ++ (r.error.map fun e => ("error", e.toJson)).toList

-- What the answer says: an error counts before a result, and no result is the result `null`.
def outcome (r : Response) : Except ErrorObject Json :=
  match r.error with
  | some e => .error e
  | none => .ok (r.result.getD .null)

end Response

inductive Message
  | request (r : Request)
  | response (r : Response)
  | notification (n : Notification)

inductive DecodeError
  | malformed (fault : Json.Fault)
  | mismatched (mismatch : Mismatch)
  | notAnObject
  | unknownShape
  | methodNotText

def DecodeError.message : DecodeError → String
  | .malformed fault => "malformed JSON: " ++ fault.message
  | .mismatched m => "malformed JSON: " ++ m.message
  | .notAnObject => "frame is not a JSON object"
  | .unknownShape => "frame is neither a request, a response nor a notification"
  | .methodNotText => "`method` must be a string"

namespace Message

def toJson : Message → Json
  | .request r => r.toJson
  | .response r => r.toJson
  | .notification n => n.toJson

def encode (m : Message) : String :=
  m.toJson.text

def names (members : Members) (key : String) : Bool :=
  match Members.get? key members with
  | none | some .null => false
  | some _ => true

-- Reads an object as a message. A method makes it a request if it has an id, and a notification if
-- it has none; without a method, a result or an error makes it a response.
def ofMembers (members : Members) : Except DecodeError Message :=
  let read {α : Type} (type : String) (fields : Fields α) : Except DecodeError α :=
    (Fields.record type fields (.obj members)).mapError .mismatched
  match Members.get? "method" members with
  | some (.str _) =>
    if names members "id" then (read "RequestMessage" Request.fields).map .request
    else (read "NotificationMessage" Notification.fields).map .notification
  | some _ => .error .methodNotText
  | none =>
    if (Members.get? "result" members).isSome || (Members.get? "error" members).isSome then
      (read "ResponseMessage" Response.fields).map .response
    else .error .unknownShape

def ofJson : Json → Except DecodeError Message
  | .obj members => ofMembers members
  | _ => .error .notAnObject

def decode (text : String) : Except DecodeError Message :=
  match Json.parse text with
  | .error fault => .error (.malformed fault)
  | .ok j => ofJson j

end Message
end LanguageClient.Rpc
