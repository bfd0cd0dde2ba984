namespace LanguageClient

inductive Stream
  | message
  | log
  | error
  deriving DecidableEq, Repr

structure Event where
  stream : Stream
  text   : String
  deriving DecidableEq, Repr

structure Listener (κ : Type) where
  number  : Nat
  stream  : Stream
  channel : κ
  deriving DecidableEq, Repr

structure Listeners (κ : Type) where
  issued   : Nat
  attached : List (Listener κ)
  closed   : List κ
  deriving Repr

namespace Listeners
variable {κ : Type} [DecidableEq κ]

def empty : Listeners κ := ⟨0, [], []⟩

def add (ls : Listeners κ) (stream : Stream) (channel : κ) : Listeners κ :=
  { ls with
    issued   := ls.issued + 1
    attached := ls.attached ++ [⟨ls.issued, stream, channel⟩] }

def remove (ls : Listeners κ) (number : Nat) : Listeners κ :=
  { ls with attached := ls.attached.filter (·.number ≠ number) }

def isActive (ls : Listeners κ) (number : Nat) : Bool :=
  ls.attached.any (·.number = number)

def count (ls : Listeners κ) (stream : Stream) : Nat :=
  ls.attached.countP (·.stream = stream)

def close (ls : Listeners κ) (channel : κ) : Listeners κ :=
  { ls with closed := channel :: ls.closed }

def isOpen (ls : Listeners κ) (l : Listener κ) : Bool :=
  !ls.closed.contains l.channel

def receivers (ls : Listeners κ) (stream : Stream) : List κ :=
  (ls.attached.filter fun l => l.stream = stream && ls.isOpen l).map (·.channel)

-- A listener whose channel is closed goes when something is emitted on its stream.
def prune (ls : Listeners κ) (stream : Stream) : Listeners κ :=
  { ls with attached := ls.attached.filter fun l => l.stream ≠ stream || ls.isOpen l }

end Listeners
end LanguageClient
