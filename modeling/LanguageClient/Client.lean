import LanguageClient.Session.Call

namespace LanguageClient

inductive Phase
  | fresh
  | waiting (ticket : Nat)
  deriving DecidableEq, Repr

structure Caller where
  number : Nat
  label  : String
  call   : Call
  phase  : Phase

inductive Turn
  | router (channel : Nat)
  | caller (number : Nat)
  deriving DecidableEq, Repr

structure Client where
  session  : Session
  callers  : List Caller
  issued   : Nat
  handles  : List (String × Nat)
  turns    : List Turn
  finished : List (String × Except Failure Json)

inductive Input
  | start (command : String) (args : List String)
  | cleanup
  | send (label method : String) (params : Json)
  | call (label : String) (call : Call)
  | abandon (label : String)
  | notify (method : String) (params : Json)
  | didOpen (path text language : String)
  | didChange (path text : String) (version : Int)
  | cancel (id : Int)
  | diagnostics (uri : String)
  | subscribe (name : String) (reactions : List Reaction)
  | unsubscribe (name : String)
  | emit (event : Event)
  | refuseStart (reason : String)
  | refuseSends (on : Bool)
  | write (frame : String)
  | sentValues
  | advance (millis : Nat)

namespace Client

def idle : Client := ⟨.idle, [], 0, [], [], []⟩

-- The router is due when it is new and when events come to it.
def routerTurn (before after : Session) : List Turn :=
  match before.wiring.router?, after.wiring.router? with
  | none, some r => [.router r.channel]
  | some r, some r' =>
    if r.channel ≠ r'.channel || (r.inbox = [] && r'.inbox ≠ []) then [.router r'.channel] else []
  | _, none => []

def callerTurns (callers : List Caller) (before after : Session) : List Turn :=
  (after.pending.completedSince before.pending).flatMap fun c =>
    (callers.filter (·.phase = .waiting c.entry.ticket)).map fun caller => .caller caller.number

def addTurn (turns : List Turn) (turn : Turn) : List Turn :=
  if turn ∈ turns then turns else turns ++ [turn]

def withSession (c : Client) (s : Session) : Client :=
  { c with
    session := s
    turns   := (callerTurns c.callers c.session s ++ routerTurn c.session s).foldl addTurn c.turns }

def addCaller (c : Client) (label : String) (call : Call) (phase : Phase) : Client :=
  { c with
    callers := c.callers ++ [⟨c.issued, label, call, phase⟩]
    issued  := c.issued + 1
    handles := (label, c.issued) :: c.handles.filter (·.1 ≠ label)
    turns   := c.turns ++ [.caller c.issued] }

def dropCaller (c : Client) (number : Nat) : Client :=
  { c with callers := c.callers.filter (·.number ≠ number) }

def abandon (c : Client) (label : String) : Bool × Client :=
  match c.handles.find? (·.1 = label) with
  | none => (false, c)
  | some (_, number) =>
    (true, { c.dropCaller number with handles := c.handles.filter (·.1 ≠ label) })

def report (c : Client) (caller : Caller) (result : Except Failure Json) : Client :=
  { c.dropCaller caller.number with finished := c.finished ++ [(caller.label, result)] }

def await (c : Client) (caller : Caller) (ticket : Nat) : Client :=
  { c with
    callers := c.callers.map fun d =>
      if d.number = caller.number then { d with phase := .waiting ticket } else d }

def resume (c : Client) (caller : Caller) : Client :=
  match caller.phase with
  | .fresh =>
    match c.session.begin caller.call with
    | (.waiting ticket, s) => (c.await caller ticket).withSession s
    | (.over result, s) => (c.report caller result).withSession s
  | .waiting ticket =>
    match c.session.pending.outcome? ticket with
    | none => c
    | some outcome =>
      let (result, s) := c.session.finish caller.call outcome
      (c.report caller result).withSession s

def turn (c : Client) (t : Turn) : Client :=
  match t with
  | .router channel =>
    match c.session.wiring.router? with
    | some r => if r.channel = channel then c.withSession c.session.route else c
    | none => c
  | .caller number =>
    match c.callers.find? (·.number = number) with
    | some caller => c.resume caller
    | none => c

def go (c : Client) : Nat → Client
  | 0 => c
  | n + 1 =>
    match c.turns with
    | [] => c
    | t :: rest => go ({ c with turns := rest }.turn t) n

-- Lets everything go on that can. A caller gets a turn again at most once, when its request is
-- settled, so there are no more turns than those that are due and one for each caller.
def rest (c : Client) : Client :=
  c.go (c.turns.length + c.callers.length)

def sentValues (s : Session) : List Json :=
  s.transport.sent.filterMap fun frame => (Json.parse frame).toOption

def replyUnit (r : Except Failure Unit) : Except Failure Json :=
  r.map fun _ => .null

def handleJson (h : Handle) : Json :=
  .object [("id", .int h.id), ("method", .str h.method)]

def perform (c : Client) (input : Input) : Except Failure Json × Client :=
  let s := c.session
  match input with
  | .start command args =>
    let (r, s) := s.start command args
    (r.map .str, c.withSession s)
  | .cleanup => (.ok .null, c.withSession s.cleanup)
  | .send label method params =>
    match s.send method params with
    | (.ok h, s) => (.ok (handleJson h), (c.withSession s).addCaller label .response (.waiting h.ticket))
    | (.error e, s) => (.error e, c.withSession s)
  | .call label call => (.ok .null, c.addCaller label call .fresh)
  | .abandon label =>
    let (known, c) := c.abandon label
    (.ok (.bool known), c)
  | .notify method params =>
    let (r, s) := s.sendNotification method params
    (replyUnit r, c.withSession s)
  | .didOpen path text language =>
    let (r, s) := s.sendNotification "textDocument/didOpen" (Protocol.didOpenParams path text language)
    (replyUnit r, c.withSession s)
  | .didChange path text version =>
    let (r, s) := s.sendNotification "textDocument/didChange"
      (Protocol.didChangeParams path text version)
    (replyUnit r, c.withSession s)
  | .cancel id =>
    let (r, s) := s.cancel id
    (r.map .bool, c.withSession s)
  | .diagnostics uri =>
    (.ok (.arr ((s.bulletin.diagnostics uri).map Protocol.Diagnostic.toJson)), c)
  | .subscribe name reactions =>
    (.ok .null, c.withSession { s with bulletin := s.bulletin.subscribe name reactions })
  | .unsubscribe name =>
    (.ok (.bool (s.bulletin.handle? name).isSome),
      c.withSession { s with bulletin := s.bulletin.unsubscribe name })
  | .emit e => (.ok .null, c.withSession (s.emit e))
  | .refuseStart reason =>
    (.ok .null, c.withSession { s with transport := { s.transport with startRefusal? := some reason } })
  | .refuseSends on =>
    let sendRefusal? := if on then some Loopback.refusal else none
    (.ok .null, c.withSession { s with transport := { s.transport with sendRefusal? } })
  | .write frame =>
    match s.write frame with
    | .ok s => (.ok .null, c.withSession s)
    | .error fault => (.error (.transport fault), c)
  | .sentValues => (.ok (.arr (sentValues s)), c)
  | .advance millis => (.ok .null, c.withSession (s.advance millis))

-- Performs inputs back to back, and only then lets everything go on.
def burst (c : Client) (inputs : List Input) : List (Except Failure Json) × Client :=
  let (replies, c) := inputs.foldl (fun (replies, c) input =>
    let (r, c) := perform c input
    (replies ++ [r], c)) (([] : List (Except Failure Json)), c)
  (replies, c.rest)

def run (c : Client) (inputs : List Input) : Client :=
  inputs.foldl (fun c input => (c.burst [input]).2) c

end Client
end LanguageClient
