import LanguageClient.Failure
import LanguageClient.MockServer.Basic
import LanguageClient.Rpc.Frame
import LanguageClient.Transport.Listeners

namespace LanguageClient

-- What a program does with its input: `echo` gives it back, `print` writes a text of its own and ends,
-- `serve` is a mock server.
inductive Program
  | echo
  | print (output : Bytes)
  | serve (server : MockServer)

def Program.mockServer (args : List String) : Program :=
  match MockServer.Options.ofArguments? args with
  | some options => .serve (.new options)
  | none => .print []

structure Child where
  program : Program
  unread  : Bytes

structure Piped where
  child? : Option Child

namespace Piped

def idle : Piped := ⟨none⟩

def closed : Event := ⟨.error, "language server closed its output"⟩

def eventOf : Rpc.Frame.Unit → Event
  | .ok (.message body) => ⟨.message, body⟩
  | .ok (.log line) => ⟨.log, line⟩
  | .error fault => ⟨.error, "malformed frame: " ++ fault.chain⟩

def complaints (output : String) : List Event :=
  (Text.lines output.toList).map fun line => ⟨.error, String.ofList line⟩

end Piped

namespace Child

def read (c : Child) (output : Bytes) : List Event × Child :=
  let (units, unread) := Rpc.Frame.drain (c.unread ++ output)
  (units.map Piped.eventOf, { c with unread })

def begin (c : Child) : List Event × Child :=
  match c.program with
  | .print output =>
    let (events, c) := c.read output
    (events ++ [Piped.closed], c)
  | _ => ([], c)

def write? (c : Child) (input : Bytes) : Option (List Event × Child) :=
  match c.program with
  | .print _ => none
  | .echo => some (c.read input)
  | .serve server =>
    let (server, outputs) := server.feed input
    let (events, c) := { c with program := .serve server }.read
      (Utf8.encode (String.join (outputs.map MockServer.Output.onOut)))
    some (events ++ Piped.complaints (String.join (outputs.map MockServer.Output.onErr)), c)

end Child

namespace Piped

def notFound : String := "No such file or directory (os error 2)"

def brokenPipe : String := "Broken pipe (os error 32)"

def start (p : Piped) (command : String) (program : Except String Program) :
    Except TransportFault String × List Event × Piped :=
  match program with
  | .error reason => (.error (.start command reason), [], { p with child? := none })
  | .ok program =>
    let (events, child) := Child.begin ⟨program, []⟩
    (.ok ("LSP started: " ++ command), events, { p with child? := some child })

def send (p : Piped) (body : String) : Except TransportFault (List Event) × Piped :=
  match p.child? with
  | none => (.error .notRunning, p)
  | some child =>
    match child.write? (Utf8.encode (Rpc.Frame.encode body)) with
    | none => (.error (.send brokenPipe), p)
    | some (events, child) => (.ok events, { p with child? := some child })

def isRunning (p : Piped) : Bool :=
  match p.child? with
  | some ⟨.print _, _⟩ | none => false
  | some _ => true

def stop (p : Piped) : Piped := { p with child? := none }

end Piped
end LanguageClient
