import LanguageClient.Json.Outline
import LanguageClient.Rpc.Frame

namespace LanguageClient.MockServer

structure Incoming where
  id?     : Option Json
  method? : Option String
  params  : Json
  error?  : Option Json

namespace Incoming

def present : Json → Option Json
  | .null => none
  | j => some j

def ofValues? (id method params error : Json) : Option Incoming :=
  match method with
  | .str s => some ⟨present id, some s, params, present error⟩
  | .null => some ⟨present id, none, params, present error⟩
  | _ => none

def ofItems? : List Json → Option Incoming
  | [id, method] => ofValues? id method .null .null
  | [id, method, params] => ofValues? id method params .null
  | [id, method, params, error] => ofValues? id method params error
  | _ => none

-- The value of a member that matters. It may be given once only; where it is not given, it is
-- `null`.
def member? (members : List (String × String)) (key : String) : Option Json :=
  match members.filter (·.1 = key) with
  | [] => some .null
  | [(_, text)] => Json.parseInside text
  | _ => none

-- Reads a body. Of the members that do not matter only the form counts.
def ofText? (body : String) : Option Incoming :=
  match Json.outline? body with
  | some members => do
    ofValues? (← member? members "id") (← member? members "method") (← member? members "params")
      (← member? members "error")
  | none =>
    match Json.parse body with
    | .ok (.arr items) => ofItems? items
    | _ => none

end Incoming

def lengthName : List Char := "content-length:".toList

def contentLength? (headers : String) : Option Nat := do
  let named := (Text.lines headers.toList).filter fun line =>
    lengthName.isPrefixOf (line.map Text.lowerAscii)
  let (_, value) ← Text.cut? ':' (← named.getLast?)
  (Text.readCount UInt64.size (Text.trim value)).toOption

-- The first body in a buffer and what follows it. A header that names no length is never passed.
def takeBody? (buffer : Bytes) : Option (String × Bytes) := do
  let (headers, rest) ← Rpc.Frame.cutHeaders? buffer
  let length ← contentLength? (← (Utf8.decode headers).toOption)
  if rest.length < length then none
  return (← (Utf8.decode (rest.take length)).toOption, rest.drop length)

end LanguageClient.MockServer
