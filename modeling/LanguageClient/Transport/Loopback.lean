import LanguageClient.Failure
import LanguageClient.Transport.Listeners

namespace LanguageClient

-- The commands that were started, the frames that were sent and, for each stop, the number of message
-- listeners at that moment.
structure Loopback where
  listeners     : Listeners Nat
  started       : List (String × List String)
  sent          : List String
  stops         : List Nat
  startRefusal? : Option String
  sendRefusal?  : Option String

namespace Loopback

def empty : Loopback := ⟨.empty, [], [], [], none, none⟩

def start (t : Loopback) (command : String) (args : List String) :
    Except TransportFault String × Loopback :=
  match t.startRefusal? with
  | some reason => (.error (.start command reason), { t with startRefusal? := none })
  | none =>
    let started := t.started ++ [(command, args)]
    (.ok ("LSP started: " ++ command ++ " (memory #" ++ toString started.length ++ ")"),
      { t with started })

def send (t : Loopback) (frame : String) : Except TransportFault Loopback :=
  match t.sendRefusal? with
  | some reason => .error (.send reason)
  | none => .ok { t with sent := t.sent ++ [frame] }

def refusal : String := "memory transport refused the frame"

def stop (t : Loopback) : Loopback :=
  { t with stops := t.stops ++ [t.listeners.count .message] }

end Loopback
end LanguageClient
