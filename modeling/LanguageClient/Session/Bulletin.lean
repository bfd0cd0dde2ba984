import LanguageClient.Protocol.Diagnostic
import LanguageClient.Session.Notice

namespace LanguageClient
open Protocol

-- What a subscriber does when it is called. A failure ends what it does, and so does a crash.
inductive Reaction
  | fail (reason : String)
  | crash (reason : String)
  | unsubscribe (name : String)
  | subscribe (name : String) (reactions : List Reaction)

structure Subscriber where
  number    : Nat
  name      : String
  reactions : List Reaction

inductive Verdict
  | done
  | failed (reason : String)
  | crashed (reason : String)
  deriving DecidableEq, Repr

structure Delivery where
  number  : Nat
  name    : String
  publish : Publish
  verdict : Verdict

def Delivery.notice? (d : Delivery) : Option Notice :=
  match d.verdict with
  | .done => none
  | .failed reason => some (.subscriberFailed d.number d.publish.uri reason)
  | .crashed reason => some (.subscriberCrashed d.number d.publish.uri reason)

structure Bulletin where
  subscribers : List Subscriber
  issued      : Nat
  handles     : List (String × Nat)
  latest      : List (String × List Diagnostic)

namespace Bulletin

def empty : Bulletin := ⟨[], 0, [], []⟩

def subscribe (b : Bulletin) (name : String) (reactions : List Reaction) : Bulletin :=
  { b with
    subscribers := b.subscribers ++ [⟨b.issued, name, reactions⟩]
    issued      := b.issued + 1
    handles     := (name, b.issued) :: b.handles }

def handle? (b : Bulletin) (name : String) : Option Nat :=
  (b.handles.find? (·.1 = name)).map (·.2)

def remove (b : Bulletin) (number : Nat) : Bulletin :=
  { b with subscribers := b.subscribers.filter (·.number ≠ number) }

def unsubscribe (b : Bulletin) (name : String) : Bulletin :=
  match b.handle? name with
  | some number => b.remove number
  | none => b

def isSubscribed (b : Bulletin) (number : Nat) : Bool :=
  b.subscribers.any (·.number = number)

def react (b : Bulletin) : List Reaction → Bulletin × Verdict
  | [] => (b, .done)
  | .fail reason :: _ => (b, .failed reason)
  | .crash reason :: _ => (b, .crashed reason)
  | .unsubscribe name :: rest => (b.unsubscribe name).react rest
  | .subscribe name reactions :: rest => (b.subscribe name reactions).react rest

-- Tells the given subscribers in turn. One that was removed before its turn is not called, and one
-- that was added hears the next publication first.
def tell (b : Bulletin) (publish : Publish) : List Subscriber → Bulletin × List Delivery
  | [] => (b, [])
  | s :: rest =>
    if b.isSubscribed s.number then
      let (b, verdict) := b.react s.reactions
      let (b, deliveries) := b.tell publish rest
      (b, ⟨s.number, s.name, publish, verdict⟩ :: deliveries)
    else b.tell publish rest

def put (b : Bulletin) (publish : Publish) : Bulletin :=
  { b with
    latest := (publish.uri, publish.diagnostics) :: b.latest.filter (·.1 ≠ publish.uri) }

def publish (b : Bulletin) (publish : Publish) : Bulletin × List Delivery :=
  (b.put publish).tell publish b.subscribers

def diagnostics (b : Bulletin) (uri : String) : List Diagnostic :=
  ((b.latest.find? (·.1 = uri)).map (·.2)).getD []

def clear (b : Bulletin) : Bulletin := { b with latest := [] }

structure Receipt where
  bulletin   : Bulletin
  deliveries : List Delivery
  notices    : List Notice

def shownText? (n : Rpc.Notification) : Option String :=
  if n.method = "window/logMessage" || n.method = "window/showMessage" then
    match n.params.get? "message" with
    | some (.str text) => some text
    | _ => none
  else none

def receive (b : Bulletin) (n : Rpc.Notification) : Receipt :=
  if n.method = Publish.method then
    match Publish.read n.params with
    | .error m => ⟨b, [], [.unreadablePublish m]⟩
    | .ok publish =>
      let (b, deliveries) := b.publish publish
      ⟨b, deliveries, .published publish.diagnostics.length publish.uri
        :: deliveries.filterMap Delivery.notice?⟩
  else ⟨b, [], ((shownText? n).map .serverMessage).toList⟩

end Bulletin
end LanguageClient
