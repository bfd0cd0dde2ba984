import LanguageClient.Failure
import LanguageClient.Session.Lifecycle

namespace LanguageClient

inductive Level
  | debug
  | info
  | warn
  deriving DecidableEq, Repr

def Level.name : Level → String
  | .debug => "DEBUG"
  | .info => "INFO"
  | .warn => "WARN"

inductive Notice
  | entered (state : Lifecycle)
  | started (process : String)
  | notStarted (command : String) (fault : TransportFault)
  | restarted (discarded : Nat)
  | handshakeComplete
  | reused (id : Int)
  | settled (id : Int) (method : String)
  | timedOut (id : Int) (method : String)
  | discarded (count : Nat)
  | undecodable (error : Rpc.DecodeError)
  | foreignAnswer (id : Option String)
  | unmatchedAnswer (id : Int)
  | declining (method : String) (id : Rpc.RequestId)
  | notDeclined (fault : TransportFault)
  | output (line : String)
  | complaint (line : String)
  | published (count : Nat) (uri : String)
  | unreadablePublish (mismatch : Mismatch)
  | subscriberFailed (subscriber : Nat) (uri reason : String)
  | subscriberCrashed (subscriber : Nat) (uri reason : String)
  | serverMessage (text : String)

namespace Notice

def level : Notice → Level
  | .started _ | .restarted _ => .info
  | .notStarted .. | .reused _ | .timedOut .. | .undecodable _ | .notDeclined _ | .complaint _
  | .unreadablePublish _ | .subscriberFailed .. | .subscriberCrashed .. => .warn
  | .entered _ | .handshakeComplete | .settled .. | .discarded _ | .foreignAnswer _
  | .unmatchedAnswer _ | .declining .. | .output _ | .published .. | .serverMessage _ => .debug

-- The id of an answer that no request of this client can have.
def shownId : Option String → String
  | none => "None"
  | some s => "Some(String(" ++ Text.quoted s ++ "))"

def message : Notice → String
  | .entered state => "LSP session -> " ++ state.name
  | .started process => process
  | .notStarted command fault =>
    "Failed to start LSP server " ++ command ++ ": " ++ fault.message
  | .restarted count => "Restart discarded " ++ toString count ++ " in-flight requests"
  | .handshakeComplete => "LSP handshake complete"
  | .reused id => "Request id " ++ toString id ++ " was reused while still pending"
  | .settled id method =>
    "Request `" ++ method ++ "` (id " ++ toString id ++ ") settled after"
  | .timedOut id method =>
    "LSP request '" ++ method ++ "' (id " ++ toString id ++ ") timed out after"
  | .discarded count => "Discarded " ++ toString count ++ " pending requests"
  | .undecodable e => "Failed to parse LSP message: " ++ e.message
  | .foreignAnswer id => "Dropping response without a client-issued id: " ++ shownId id
  | .unmatchedAnswer id =>
    "Ignoring response for unknown or settled request id " ++ toString id
  | .declining method id => "Declining server request: " ++ method ++ " (id: " ++ id.shown ++ ")"
  | .notDeclined fault => "Failed to decline server request: " ++ fault.message
  | .output line => "[LSP Log] " ++ line
  | .complaint line => "[LSP Error] " ++ line
  | .published count uri =>
    "Received " ++ toString count ++ " diagnostics for " ++ Text.quoted uri
  | .unreadablePublish m => "Failed to parse publishDiagnostics params: " ++ m.message
  | .subscriberFailed subscriber uri reason =>
    "Diagnostics subscriber " ++ toString subscriber ++ " failed for " ++ uri ++ ": " ++ reason
  | .subscriberCrashed subscriber uri reason =>
    "Diagnostics subscriber " ++ toString subscriber ++ " panicked for " ++ uri ++ ": " ++ reason
  | .serverMessage text => "LSP server message: " ++ text

def text (n : Notice) : String :=
  n.level.name ++ " " ++ n.message

end Notice
end LanguageClient
