import LanguageClient.Uri.Domain.DirectionTable
import LanguageClient.Uri.Domain.JoiningTable
import LanguageClient.Uri.Domain.MarkTable

namespace LanguageClient.Uri.Domain

def nextJoining (ns : List Nat) : Option Nat :=
  (ns.dropWhile transparent.contains).head?

def joinsForward (n : Nat) : Bool := joinsBoth.contains n || joinsLeft.contains n

def joinsBackward (n : Nat) : Bool := joinsBoth.contains n || joinsRight.contains n

-- A joiner after the signs `before` (last first) has an effect behind a sign that suppresses a
-- vowel; a non-joiner also has one between letters that would join.
def joinerFits (n : Nat) (before after : List Nat) : Bool :=
  (before.head?.any viramas.contains)
    || (n = 0x200C && (nextJoining before).any joinsForward && (nextJoining after).any joinsBackward)

def joinersFit (before : List Nat) : List Nat → Bool
  | [] => true
  | n :: rest =>
    (if n = 0x200C || n = 0x200D then joinerFits n before rest else true)
      && joinersFit (n :: before) rest

inductive Direction
  | left
  | right
  | arabicDigit
  | digit
  | mark
  | neutral
  deriving DecidableEq, Repr

def direction (n : Nat) : Direction :=
  if leftward.contains n then .right
  else if arabicDigits.contains n then .arabicDigit
  else if digits.contains n then .digit
  else if nonspacing.contains n then .mark
  else if neutral.contains n then .neutral
  else .left

def isBidirectional (label : List Nat) : Bool :=
  label.any fun n => direction n = .right || direction n = .arabicDigit

-- The rule on directions: a label that begins with a letter of one direction has no letters of the
-- other, ends in a letter or digit, and does not mix the two kinds of digits.
def directionsFit (label : List Nat) : Bool :=
  let ds := label.map direction
  let last := (ds.reverse.dropWhile (· = .mark)).head?
  match ds.head? with
  | none => true
  | some .right =>
    ds.all (· ≠ .left)
      && (last = some .right || last = some .digit || last = some .arabicDigit)
      && !(ds.contains .digit && ds.contains .arabicDigit)
  | some .left =>
    ds.all (fun d => d ≠ .right && d ≠ .arabicDigit)
      && (last = some .left || last = some .digit)
  | some _ => false

def isWellFormed (label : List Nat) : Bool :=
  !(label.head?.any marks.contains) && joinersFit [] label

end LanguageClient.Uri.Domain
