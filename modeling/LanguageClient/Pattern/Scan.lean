import LanguageClient.Pattern.Basic
import LanguageClient.Pattern.Fault

namespace LanguageClient.Pattern

-- How the text of a pattern is meant. With `verbose` blanks and comments do not count; without
-- `unicode` a pattern is about bytes, and may not match parts of characters.
structure Flags where
  caseless   : Bool
  multiline  : Bool
  dotAll     : Bool
  anyLineEnd : Bool
  unicode    : Bool
  verbose    : Bool
  deriving DecidableEq, Repr

def Flags.default : Flags := ⟨false, false, false, false, true, false⟩

-- The place, what follows it, the flags and the names of groups so far. `later?` is a fault that
-- counts only if the text can be read to its end.
structure State where
  place  : Nat
  rest   : List Char
  flags  : Flags
  names  : List (String × Span)
  later? : Option Fault

abbrev Scan (α : Type) := StateT State (Except Fault) α

def dropIgnored (inComment : Bool) : List Char → List Char
  | [] => []
  | c :: cs =>
    if inComment then dropIgnored (c ≠ '\n') cs
    else if c = '#' then dropIgnored true cs
    else if Text.isBlank c then dropIgnored false cs
    else c :: cs

namespace Scan

def place : Scan Nat := do return (← get).place

def peek : Scan (Option Char) := do return (← get).rest.head?

def atEnd : Scan Bool := do return (← get).rest.isEmpty

def flags : Scan Flags := do return (← get).flags

def setFlags (flags : Flags) : Scan Unit := modify ({ · with flags })

def drop : Scan Unit := modify fun s => { s with place := s.place + 1, rest := s.rest.drop 1 }

def dropMany (n : Nat) : Scan Unit := modify fun s => { s with place := s.place + n, rest := s.rest.drop n }

def skip : Scan Unit := modify fun s =>
  if s.flags.verbose then
    let rest := dropIgnored false s.rest
    { s with place := s.place + (s.rest.length - rest.length), rest }
  else s

def next : Scan Unit := do
  drop
  skip

def second : Scan (Option Char) := do return (← get).rest[1]?

def secondCounted : Scan (Option Char) := do
  let s ← get
  let rest := s.rest.drop 1
  return (if s.flags.verbose then dropIgnored false rest else rest).head?

def take? (text : String) : Scan Bool := do
  let cs := text.toList
  if cs.isPrefixOf (← get).rest then
    dropMany cs.length
    return true
  else return false

def failAt (span : Span) (problem : Problem) : Scan α := throw ⟨problem, span, none⟩

def failHere (problem : Problem) : Scan α := do
  let i ← place
  failAt ⟨i, i⟩ problem

def failNext (problem : Problem) : Scan α := do
  let i ← place
  failAt ⟨i, i + 1⟩ problem

def failSince (first : Nat) (problem : Problem) : Scan α := do
  failAt ⟨first, ← place⟩ problem

-- Notes a fault that counts if there is no other.
def note (span : Span) (problem : Problem) : Scan Unit :=
  modify fun s => { s with later? := s.later?.or (some ⟨problem, span, none⟩) }

def takeWhile (p : Char → Bool) : Nat → Scan (List Char)
  | 0 => return []
  | n + 1 => do
    match ← peek with
    | none => return []
    | some c =>
      if p c then
        next
        return c :: (← takeWhile p n)
      else return []

def remaining : Scan Nat := do return (← get).rest.length

end Scan
end LanguageClient.Pattern
