import LanguageClient.Client
import LanguageClient.Transport.Piped

namespace LanguageClient

structure Exchange where
  client : Client
  child? : Option Child
  passed : Nat

namespace Exchange

def idle : Exchange := ⟨.idle, none, 0⟩

def feed (child : Child) : List String → List Event × Child
  | [] => ([], child)
  | frame :: frames =>
    match child.write? (Utf8.encode (Rpc.Frame.encode frame)) with
    | none => ([], child)
    | some (events, child) =>
      let (later, child) := feed child frames
      (events ++ later, child)

def pass (x : Exchange) : Exchange :=
  match x.child? with
  | none => x
  | some child =>
    let sent := x.client.session.transport.sent
    let (events, child) := feed child (sent.drop x.passed)
    ⟨(x.client.burst (events.map .emit)).2, some child, sent.length⟩

-- Lets client and program go on until neither has anything to say. A client answers what a program
-- says, and a program that gives back its input makes of that at most one more answer, which nobody
-- answers: so three rounds are enough.
def settle (x : Exchange) : Exchange := x.pass.pass.pass

def perform (x : Exchange) (inputs : List Input) : Exchange :=
  { x with client := x.client.run inputs }.settle

def hasEnded (p : Program) : Bool :=
  match p with
  | .print _ => true
  | .echo | .serve _ => false

def start (x : Exchange) (command : String) (args : List String)
    (program : Except String Program) : Except Failure Unit × Exchange :=
  match program with
  | .error reason =>
    let (reply, client) := (x.client.run [.refuseStart reason]).perform (.start command args)
    (reply.map fun _ => (), { x with client, child? := none })
  | .ok program =>
    let (reply, client) := x.client.perform (.start command args)
    let s := client.session
    let sendRefusal? := if hasEnded program then some Piped.brokenPipe else none
    let client := { client with session := { s with transport := { s.transport with sendRefusal? } } }
    let (events, child) := Child.begin ⟨program, []⟩
    (reply.map fun _ => (),
      ⟨(client.burst (events.map .emit)).2, some child, s.transport.sent.length⟩)

def result? (x : Exchange) (label : String) : Option (Except Failure Json) :=
  (x.client.finished.reverse.find? (·.1 = label)).map (·.2)

def call (x : Exchange) (label : String) (call : Call) : Except Failure Json × Exchange :=
  let x := x.perform [.call label call]
  let x := if (x.result? label).isSome then x else x.perform [.advance Session.requestTimeout]
  ((x.result? label).getD (.ok .null), x)

end Exchange
end LanguageClient
