import LanguageClient.Pattern.Escape

namespace LanguageClient.Pattern
open Scan

inductive SetOp
  | inter
  | diff
  | symmDiff
  deriving DecidableEq, Repr

def SetOp.apply : SetOp → CharSet → CharSet → CharSet
  | .inter, s, t => .inter s t
  | .diff, s, t => s.diff t
  | .symmDiff, s, t => s.symmDiff t

def setOp? : Scan (Option SetOp) := do
  match ← peek, ← second with
  | some '&', some '&' => return some .inter
  | some '-', some '-' => return some .diff
  | some '~', some '~' => return some .symmDiff
  | _, _ => return none

-- A set in brackets that is being read: what was left of the last operator, and what has been read
-- since.
structure Operands where
  left? : Option (CharSet × SetOp)
  right : CharSet

namespace Operands

def value (o : Operands) : CharSet :=
  match o.left? with
  | some (left, op) => op.apply left o.right
  | none => o.right

def operator (o : Operands) (op : SetOp) : Operands := ⟨some (o.value, op), .none⟩

def add (o : Operands) (s : CharSet) : Operands := { o with right := .union o.right s }

end Operands

def foldedSet (s : CharSet) : Scan CharSet := do
  return if (← flags).caseless then .folded s else s

def asciiSet? : Scan (Option CharSet) := do
  let cs := (← get).rest.drop 1
  match cs with
  | ':' :: cs =>
    let (negated, cs) := match cs with
      | '^' :: cs => (true, cs)
      | _ => (false, cs)
    let name := cs.takeWhile (· ≠ ':')
    match cs.drop name.length, CharSet.ascii? (String.ofList name) with
    | ':' :: ']' :: rest, some s =>
      dropMany ((← remaining) - rest.length)
      return some (s.negatedIf negated)
    | _, _ => return none
  | _ => return none

def classItem : Scan (Primitive × Span) := do
  let first ← place
  let primitive ← match ← peek with
    | some '\\' => escape
    | c? =>
      drop
      pure (.char (c?.getD '\x00'))
  return (primitive, ⟨first, ← place⟩)

def boundaryOf (item : Primitive × Span) : Scan Char :=
  match item.1 with
  | .char c => return c
  | _ => failAt item.2 .classRangeLiteral

def setOf (item : Primitive × Span) : Scan CharSet := do
  match item.1 with
  | .char c =>
    if c.toNat ≥ 128 && !(← flags).unicode then note item.2 .unicodeNotAllowed
    foldedSet (.single c)
  | .set s => return s
  | .look _ | .dot => failAt item.2 .classEscapeInvalid

def classRange (opened : Span) : Scan CharSet := do
  let item ← classItem
  skip
  if ← atEnd then failAt opened .classUnclosed
  if (← peek) ≠ some '-' || (← secondCounted) = some ']' || (← secondCounted) = some '-' then
    setOf item
  else
    next
    if ← atEnd then failAt opened .classUnclosed
    let item' ← classItem
    let low ← boundaryOf item
    let high ← boundaryOf item'
    if high < low then failAt ⟨item.2.first, item'.2.last⟩ .classRangeInvalid
    foldedSet (.range low high)

def leadingDashes (start : Nat) : Nat → Scan Bool
  | 0 => return false
  | n + 1 => do
    if (← peek) ≠ some '-' then return false
    next
    if ← atEnd then failAt ⟨start, start⟩ .classUnclosed
    let _ ← leadingDashes start n
    return true

def classOpening : Scan (Bool × CharSet × Span) := do
  let start ← place
  next
  if ← atEnd then failSince start .classUnclosed
  let negated := (← peek) = some '^'
  if negated then
    next
    if ← atEnd then failSince start .classUnclosed
  let dashes ← leadingDashes start (← remaining)
  if dashes then return (negated, .single '-', ⟨start, ← place⟩)
  if (← peek) = some ']' then
    next
    if ← atEnd then failSince start .classUnclosed
    return (negated, .single ']', ⟨start, ← place⟩)
  return (negated, .none, ⟨start, ← place⟩)

mutual

def classFrom : Nat → Scan CharSet
  | 0 => failHere .classUnclosed
  | n + 1 => do
    let start ← place
    let (negated, s, opened) ← classOpening
    let s ← classRest n opened ⟨none, s⟩
    let s := s.negatedIf negated
    if !(← flags).unicode && s.mem '\x80' then note ⟨start, ← place⟩ .invalidUtf8
    return s

def classRest : Nat → Span → Operands → Scan CharSet
  | 0, _, _ => failHere .classUnclosed
  | n + 1, opened, o => do
    skip
    match ← peek with
    | none => failAt opened .classUnclosed
    | some ']' =>
      drop
      return o.value
    | some '[' =>
      match ← asciiSet? with
      | some s => classRest n opened (o.add (← foldedSet s))
      | none => classRest n opened (o.add (← classFrom n))
    | some _ =>
      match ← setOp? with
      | some op =>
        dropMany 2
        classRest n opened (o.operator op)
      | none => classRest n opened (o.add (← classRange opened))

end

def bracketed : Scan CharSet := do classFrom ((← remaining) + 1)

end LanguageClient.Pattern
