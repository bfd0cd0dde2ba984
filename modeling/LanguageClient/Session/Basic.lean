import LanguageClient.Protocol.Params
import LanguageClient.Session.Bulletin
import LanguageClient.Session.Pending
import LanguageClient.Transport.Loopback

namespace LanguageClient

structure Router where
  channel : Nat
  inbox   : List Event
  deriving DecidableEq, Repr

structure Wiring where
  listeners : List Nat
  router?   : Option Router
  wired     : Nat
  deriving DecidableEq, Repr

structure Handle where
  ticket : Nat
  id     : Int
  method : String
  deriving DecidableEq, Repr

-- The ids of requests are counted over all restarts. The count has no bound here, where that of the
-- program has 64 bits and wraps: ids are unique as long as fewer than 2 ^ 63 requests are sent.
structure Session where
  lifecycle : Lifecycle
  handshake : Handshake
  issued    : Nat
  pending   : Pending
  bulletin  : Bulletin
  transport : Loopback
  wiring    : Wiring
  notices   : List Notice
  heard     : List Delivery

namespace Session

def requestTimeout : Nat := 30000

def idle : Session where
  lifecycle := .idle
  handshake := .notStarted
  issued    := 0
  pending   := .empty requestTimeout
  bulletin  := .empty
  transport := .empty
  wiring    := ⟨[], none, 0⟩
  notices   := []
  heard     := []

def note (s : Session) (n : Notice) : Session :=
  { s with notices := s.notices ++ [n] }

def noteAll (s : Session) (ns : List Notice) : Session :=
  { s with notices := s.notices ++ ns }

def enter (s : Session) (state : Lifecycle) : Session :=
  { s.note (.entered state) with lifecycle := state }

-- Takes a later state of the table of requests, and notes which waits have ended.
def withPending (s : Session) (p : Pending) : Session :=
  { s with pending := p }.noteAll ((p.completedSince s.pending).filterMap Pending.Completion.notice?)

def discardAll (s : Session) : Nat × Session :=
  let (count, p) := s.pending.discardAll
  (count, (s.withPending p).noteAll (if count > 0 then [.discarded count] else []))

def advance (s : Session) (millis : Nat) : Session :=
  s.withPending (s.pending.advance millis)

def cleanup (s : Session) : Session :=
  { s with
    transport :=
      { s.transport with
        listeners := s.wiring.listeners.foldl Listeners.remove s.transport.listeners }
    wiring    := ⟨[], none, s.wiring.wired⟩ }

def attach (s : Session) : Session :=
  let first := s.transport.listeners.issued
  let channel := s.wiring.wired
  let listeners := [Stream.message, .log, .error].foldl (fun ls stream => ls.add stream channel)
    s.transport.listeners
  { s with
    transport := { s.transport with listeners }
    wiring    := ⟨[first, first + 1, first + 2], some ⟨channel, []⟩, channel + 1⟩ }

def subscriptionCount (s : Session) : Nat :=
  s.wiring.listeners.countP s.transport.listeners.isActive

-- Takes down what an earlier start has left: listeners first, then the server, then the requests
-- that still wait.
def tearDown (s : Session) : Session :=
  let s := (s.enter .restarting).cleanup
  let (count, s) := { s with transport := s.transport.stop }.discardAll
  let s := if count > 0 then s.note (.restarted count) else s
  { s with bulletin := s.bulletin.clear }

-- Starts a server, or starts it again. Listeners are there before the server is, so that nothing
-- it says is missed.
def start (s : Session) (command : String) (args : List String) :
    Except Failure String × Session :=
  let s := if s.lifecycle = .idle then s else s.tearDown
  let s := ({ s with handshake := .notStarted }.enter .starting).attach
  match s.transport.start command args with
  | (.ok process, transport) =>
    (.ok process, ({ s with transport }.note (.started process)).enter .ready)
  | (.error fault, transport) =>
    (.error (.transport fault),
      ({ s with transport }.note (.notStarted command fault)).cleanup.enter .stopped)

def refusal? (s : Session) (operation : String) : Option Failure :=
  if s.lifecycle.acceptsTraffic then none
  else some (.invalidState operation s.lifecycle.name)

def write (s : Session) (frame : String) : Except TransportFault Session :=
  (s.transport.send frame).map fun transport => { s with transport }

-- Sends a request. It waits in the table before its frame is written, so that no answer can come
-- too early.
def send (s : Session) (method : String) (params : Json) : Except Failure Handle × Session :=
  match s.refusal? "send" with
  | some e => (.error e, s)
  | none =>
    let id : Int := s.issued
    let handle := ⟨s.pending.issued, id, method⟩
    let s := { s with issued := s.issued + 1 }.withPending (s.pending.register id method)
    match s.write (Rpc.Message.request (.new id method params)).encode with
    | .ok s => (.ok handle, s)
    -- Nobody answers a request that was not sent.
    | .error fault => (.error (.transport fault), { s with pending := (s.pending.forget id).2 })

def notify (s : Session) (method : String) (params : Json) : Except Failure Unit × Session :=
  match s.write (Rpc.Message.notification (.new method params)).encode with
  | .ok s => (.ok (), s)
  | .error fault => (.error (.transport fault), s)

-- Sends a notification. `initialized` must wait for the answer to `initialize`.
def sendNotification (s : Session) (method : String) (params : Json) :
    Except Failure Unit × Session :=
  match s.refusal? "send_notification" with
  | some e => (.error e, s)
  | none =>
    if method = "initialized" && s.handshake ≠ .acknowledged then (.error .handshake, s)
    else s.notify method params

def cancel (s : Session) (id : Int) : Except Failure Bool × Session :=
  let (waits, p) := s.pending.cancel id
  if waits then
    let (sent, s) := (s.withPending p).notify "$/cancelRequest" (.object [("id", .int id)])
    (sent.map fun _ => true, s)
  else (.ok false, s)

def answered (s : Session) (r : Rpc.Response) : Session :=
  match r.id with
  | some (.number id) =>
    let (waits, p) := s.pending.settle id r.outcome
    if waits then s.withPending p else s.note (.unmatchedAnswer id)
  | some (.text id) => s.note (.foreignAnswer (some id))
  | none => s.note (.foreignAnswer none)

def notified (s : Session) (n : Rpc.Notification) : Session :=
  let r := s.bulletin.receive n
  { s with bulletin := r.bulletin, heard := s.heard ++ r.deliveries }.noteAll r.notices

def decline (s : Session) (r : Rpc.Request) : Session :=
  let s := s.note (.declining r.method r.id)
  let reply := Rpc.Response.ofError r.id Rpc.methodNotFound
    ("Method '" ++ r.method ++ "' not supported by client")
  match s.write (Rpc.Message.response reply).encode with
  | .ok s => s
  | .error fault => s.note (.notDeclined fault)

def handle (s : Session) (e : Event) : Session :=
  match e.stream with
  | .log => s.note (.output e.text)
  | .error => s.note (.complaint e.text)
  | .message =>
    match Rpc.Message.decode e.text with
    | .error fault => s.note (.undecodable fault)
    | .ok (.response r) => s.answered r
    | .ok (.notification n) => s.notified n
    | .ok (.request r) => s.decline r

def emit (s : Session) (e : Event) : Session :=
  let receivers := s.transport.listeners.receivers e.stream
  let receive (r : Router) : Router :=
    { r with inbox := r.inbox ++ List.replicate (receivers.count r.channel) e }
  { s with
    transport := { s.transport with listeners := s.transport.listeners.prune e.stream }
    wiring    := { s.wiring with router? := s.wiring.router?.map receive } }

def route (s : Session) : Session :=
  match s.wiring.router? with
  | none => s
  | some r =>
    r.inbox.foldl handle { s with wiring := { s.wiring with router? := some { r with inbox := [] } } }

end Session
end LanguageClient
