import LanguageClient.Failure
import LanguageClient.Session.Notice

namespace LanguageClient

-- A task that sleeps until its deadline and then expires whatever waits under its id.
structure Pending.Timer where
  task     : Nat
  id       : Int
  deadline : Nat
  deriving DecidableEq, Repr

-- A request that waits. Ids may be used again, tickets are not.
structure Pending.Entry where
  ticket : Nat
  id     : Int
  method : String
  timer  : Pending.Timer
  deriving DecidableEq, Repr

def Pending.Entry.deadline (e : Entry) : Nat := e.timer.deadline

inductive Pending.Ending
  | answered (answer : Except Rpc.ErrorObject Json)
  | expired (after : Duration)
  | cancelled
  | discarded
  | replaced

structure Pending.Completion where
  entry  : Pending.Entry
  ending : Pending.Ending

-- The requests that wait, in the order of their registration, the timers that run, in the order in which
-- they were started, and the waits that have ended, in the order in which they did. Times are in
-- milliseconds.
structure Pending where
  timeout   : Nat
  now       : Nat
  issued    : Nat
  entries   : List Pending.Entry
  timers    : List Pending.Timer
  completed : List Pending.Completion

namespace Pending

def Completion.outcome (c : Completion) : Except Failure Json :=
  match c.ending with
  | .answered (.ok v) => .ok v
  | .answered (.error e) => .error (.rejected c.entry.method e)
  | .expired after => .error (.timeout c.entry.id c.entry.method after)
  | .cancelled => .error (.cancelled c.entry.id c.entry.method)
  | .discarded | .replaced => .error (.discarded c.entry.id c.entry.method)

def Completion.notice? (c : Completion) : Option Notice :=
  match c.ending with
  | .answered _ => some (.settled c.entry.id c.entry.method)
  | .expired _ => some (.timedOut c.entry.id c.entry.method)
  | .replaced => some (.reused c.entry.id)
  | .cancelled | .discarded => none

def empty (timeout : Nat) : Pending := ⟨timeout, 0, 0, [], [], []⟩

def size (p : Pending) : Nat := p.entries.length

def contains (p : Pending) (id : Int) : Bool := p.entries.any (·.id = id)

def abort (p : Pending) (ts : List Timer) : Pending :=
  { p with timers := p.timers.filter (· ∉ ts) }

-- Ends the wait of the entries that `ends` selects. Their timers are stopped, so that none of them
-- outlives its entry.
def complete (p : Pending) (ends : Entry → Bool) (ending : Ending) : Pending :=
  let ended := p.entries.filter ends
  let p := p.abort (ended.map (·.timer))
  { p with
    entries   := p.entries.filter fun e => !ends e
    completed := p.completed ++ ended.map fun e => ⟨e, ending⟩ }

def hasId (id : Int) (e : Entry) : Bool := e.id = id

-- Starts a timer and adds an entry. An entry of the same id that still waits is replaced.
def register (p : Pending) (id : Int) (method : String) : Pending :=
  let timer := ⟨p.issued, id, p.now + p.timeout⟩
  let p := { p with timers := p.timers ++ [timer] }.complete (hasId id) .replaced
  { p with
    issued  := p.issued + 1
    entries := p.entries ++ [⟨p.issued, id, method, timer⟩] }

def claim (p : Pending) (id : Int) (ending : Ending) : Bool × Pending :=
  (p.contains id, p.complete (hasId id) ending)

def settle (p : Pending) (id : Int) (answer : Except Rpc.ErrorObject Json) : Bool × Pending :=
  p.claim id (.answered answer)

def expire (p : Pending) (id : Int) : Bool × Pending :=
  p.claim id (.expired (.ofMillis p.timeout))

def cancel (p : Pending) (id : Int) : Bool × Pending :=
  p.claim id .cancelled

def forget (p : Pending) (id : Int) : Bool × Pending :=
  p.claim id .discarded

def discardAll (p : Pending) : Nat × Pending :=
  (p.size, p.complete (fun _ => true) .discarded)

-- What a timer does when it is due, unless it was stopped in the meantime.
def fire (p : Pending) (t : Timer) : Pending :=
  if t ∈ p.timers then ((p.abort [t]).expire t.id).2 else p

-- Lets time pass. The timers that are due go off one after the other; all sleep equally long, so that the
-- order in which they were started is that of their deadlines.
def advance (p : Pending) (millis : Nat) : Pending :=
  let p := { p with now := p.now + millis }
  (p.timers.filter (·.deadline ≤ p.now)).foldl fire p

def outcome? (p : Pending) (ticket : Nat) : Option (Except Failure Json) :=
  (p.completed.find? fun c => c.entry.ticket = ticket).map Completion.outcome

def completedSince (p before : Pending) : List Completion :=
  p.completed.drop before.completed.length

end Pending
end LanguageClient
