import LanguageClient.Protocol.Completion
import LanguageClient.Protocol.Initialize
import LanguageClient.Session.Basic

namespace LanguageClient
open Protocol

inductive Want
  | strings
  | int
  | bool
  | any
  deriving DecidableEq, Repr

def Want.read (w : Want) (v : Json) : Except Mismatch Json :=
  match w with
  | .strings => (Reader.list Reader.string v).map fun _ => v
  | .int => (Reader.int64 v).map fun _ => v
  | .bool => (Reader.optional Reader.bool v).map fun _ => v
  | .any => .ok v

-- A call that waits. `response` waits for a request that was sent before.
inductive Call
  | response
  | request (method : String) (params : Json) (want : Want)
  | handshake (root : String)
  | completion (path : String) (line character : Nat)
  | shutdown

inductive Call.Progress
  | waiting (ticket : Nat)
  | over (result : Except Failure Json)

namespace Session

def stopped (s : Session) : Session :=
  let (_, s) := s.cleanup.discardAll
  { s with handshake := .notStarted }.enter .stopped

def acknowledge (s : Session) (v : Json) : Except Failure Json × Session :=
  match { s with handshake := .acknowledged }.sendNotification "initialized" (.object []) with
  | (.error e, s) => (.error e, s)
  | (.ok _, s) =>
    (((InitializeResult.read v).mapError .ofMismatch).map InitializeResult.toJson,
      { s with handshake := .complete }.note .handshakeComplete)

-- Says goodbye to the server, unless the request for it has failed.
def goodbye (s : Session) (r : Except Failure Json) : Except Failure Json × Session :=
  match r with
  | .error e => (.error e, s)
  | .ok _ =>
    let (sent, s) := s.notify "exit" .null
    (sent.map fun _ => .null, s)

def finish (s : Session) (call : Call) (r : Except Failure Json) : Except Failure Json × Session :=
  match call with
  | .response => (r, s)
  | .request _ _ want => (r.bind fun v => (want.read v).mapError .ofMismatch, s)
  | .completion .. =>
    (r.bind fun v => ((completionItems v).mapError .ofMismatch).map fun items =>
      .arr (items.map CompletionItem.toJson), s)
  | .handshake _ =>
    match r with
    -- The handshake may be begun again.
    | .error e => (.error e, { s with handshake := .notStarted })
    | .ok v => s.acknowledge v
  | .shutdown =>
    -- The session ends on this side, whatever the server has said.
    let (result, s) := s.goodbye r
    (result, s.stopped)

def ask (s : Session) (call : Call) (method : String) (params : Json) : Call.Progress × Session :=
  match s.send method params with
  | (.ok handle, s) => (.waiting handle.ticket, s)
  | (.error e, s) =>
    let (result, s) := s.finish call (.error e)
    (.over result, s)

def begin (s : Session) (call : Call) : Call.Progress × Session :=
  match call with
  | .response => (.over (.ok .null), s)
  | .request method params _ => s.ask call method params
  | .completion path line character =>
    s.ask call "textDocument/completion" (completionParams path line character)
  | .shutdown => s.ask call "shutdown" .null
  | .handshake root =>
    if s.handshake ≠ .notStarted then
      (.over (.error (.invalidState "initialize" "already initializing")), s)
    else { s with handshake := .awaitingResponse }.ask call "initialize" (initializeParams root)

end Session
end LanguageClient
