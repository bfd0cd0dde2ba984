import LanguageClient.Decimal.Duration
import LanguageClient.Json.Reading
import LanguageClient.Rpc.Message

namespace LanguageClient

inductive TransportFault
  | start (command reason : String)
  | notRunning
  | send (reason : String)
  deriving DecidableEq, Repr

def TransportFault.message : TransportFault → String
  | .start command reason =>
    "failed to start language server `" ++ command ++ "`: " ++ reason
  | .notRunning => "language server is not running"
  | .send reason => "failed to send message: " ++ reason

inductive Failure
  | timeout (id : Int) (method : String) (elapsed : Duration)
  | rejected (method : String) (error : Rpc.ErrorObject)
  | transport (fault : TransportFault)
  | discarded (id : Int) (method : String)
  | cancelled (id : Int) (method : String)
  | handshake
  | invalidState (operation state : String)
  | unreadable (reason : String)

namespace Failure

def named (id : Int) (method : String) : String :=
  "request `" ++ method ++ "` (id " ++ toString id ++ ")"

def message : Failure → String
  | .timeout id method elapsed => named id method ++ " timed out after " ++ elapsed.text
  | .rejected method error =>
    "server returned error " ++ toString error.code ++ " for `" ++ method ++ "`: " ++ error.message
  | .transport fault => fault.message
  | .discarded id method => named id method ++ " was discarded by a session restart"
  | .cancelled id method => named id method ++ " was cancelled"
  | .handshake => "`initialized` may only be sent after the `initialize` response"
  | .invalidState operation state =>
    "operation `" ++ operation ++ "` is not valid while the session is " ++ state
  | .unreadable reason => "serialization failed: " ++ reason

def ofMismatch (m : Mismatch) : Failure := .unreadable m.message

end Failure
end LanguageClient
