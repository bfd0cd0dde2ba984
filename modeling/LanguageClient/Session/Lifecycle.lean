namespace LanguageClient

-- A session begins idle. Each start goes through `starting` to `ready`, or to `stopped` if the server
-- does not start; a later start passes through `restarting` first.
inductive Lifecycle
  | idle
  | starting
  | ready
  | restarting
  | stopped
  deriving DecidableEq, Repr

namespace Lifecycle

def name : Lifecycle → String
  | .idle => "idle"
  | .starting => "starting"
  | .ready => "ready"
  | .restarting => "restarting"
  | .stopped => "stopped"

def number : Lifecycle → Nat
  | .idle => 0
  | .starting => 1
  | .ready => 2
  | .restarting => 3
  | .stopped => 4

-- The state with a number; a number that no state has stands for `stopped`.
def ofNumber : Nat → Lifecycle
  | 0 => .idle
  | 1 => .starting
  | 2 => .ready
  | 3 => .restarting
  | _ => .stopped

theorem ofNumber_number (s : Lifecycle) : ofNumber s.number = s := by
  cases s <;> rfl

def acceptsTraffic : Lifecycle → Bool
  | .starting | .ready => true
  | .idle | .restarting | .stopped => false

end Lifecycle

-- The handshake: `initialize` is asked, its answer arrives, and only then `initialized` is sent.
inductive Handshake
  | notStarted
  | awaitingResponse
  | acknowledged
  | complete
  deriving DecidableEq, Repr

end LanguageClient
