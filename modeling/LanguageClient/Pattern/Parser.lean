import LanguageClient.Pattern.Class

namespace LanguageClient.Pattern
open Scan

inductive Flag
  | caseless
  | multiline
  | dotAll
  | swapGreed
  | unicode
  | anyLineEnd
  | verbose
  deriving DecidableEq, Repr

def flagOf? (c : Char) : Option Flag :=
  match c with
  | 'i' => some .caseless
  | 'm' => some .multiline
  | 's' => some .dotAll
  | 'U' => some .swapGreed
  | 'u' => some .unicode
  | 'R' => some .anyLineEnd
  | 'x' => some .verbose
  | _ => none

-- Whether a match is the longest or the shortest does not show in whether there is one.
def Flags.set (on : Bool) (flags : Flags) : Flag → Flags
  | .caseless => { flags with caseless := on }
  | .multiline => { flags with multiline := on }
  | .dotAll => { flags with dotAll := on }
  | .swapGreed => flags
  | .unicode => { flags with unicode := on }
  | .anyLineEnd => { flags with anyLineEnd := on }
  | .verbose => { flags with verbose := on }

-- Flags that have been read, with their places; `none` is the dash before those that are turned off.
abbrev FlagItems := List (Option Flag × Span)

def flagItems (items : FlagItems) : Nat → Scan FlagItems
  | 0 => return items
  | n + 1 => do
    match ← peek with
    | none => failHere .flagsUnfinished
    | some ':' | some ')' => return items
    | some c =>
      let i ← place
      let span : Span := ⟨i, i + 1⟩
      let item ← if c = '-' then pure none else
        match flagOf? c with
        | some flag => pure (some flag)
        | none => failAt span .flagUnknown
      match items.find? (·.1 = item) with
      | some (_, earlier) =>
        throw ⟨if item.isNone then .flagNegationRepeated else .flagRepeated, span, some earlier⟩
      | none =>
        drop
        flagItems (items ++ [(item, span)]) n

def applyItems (flags : Flags) (items : FlagItems) : Flags :=
  let on := (items.takeWhile (·.1.isSome)).filterMap (·.1)
  let off := (items.dropWhile (·.1.isSome)).filterMap (·.1)
  off.foldl (Flags.set false) (on.foldl (Flags.set true) flags)

def isNameChar (first : Bool) (c : Char) : Bool :=
  c = '_' || (Text.isAlphanumeric c && !(first && c.isDigit))
    || (!first && (c = '.' || c = '[' || c = ']'))

def nameChars (first : Bool) : Nat → Scan (List Char)
  | 0 => return []
  | n + 1 => do
    match ← peek with
    | none => failHere .groupNameUnclosed
    | some '>' => return []
    | some c =>
      if !isNameChar first c then failNext .groupNameInvalid
      drop
      return c :: (← nameChars false n)

def groupName : Scan Unit := do
  let start ← place
  let name := String.ofList (← nameChars true ((← remaining) + 1))
  let span : Span := ⟨start, ← place⟩
  drop
  if name = "" then failAt ⟨start, start⟩ .groupNameEmpty
  match (← get).names.find? (·.1 = name) with
  | some (_, earlier) => throw ⟨.groupNameRepeated, span, some earlier⟩
  | none => modify fun s => { s with names := s.names ++ [(name, span)] }

inductive Opening
  | group
  | flagsOnly

def opening (bracket : Nat) : Scan Opening := do
  for text in ["?=", "?!", "?<=", "?<!"] do
    if ← take? text then failSince bracket .lookAround
  let inner ← place
  if ← take? "?P<" then
    groupName
    return .group
  if ← take? "?<" then
    groupName
    return .group
  if ← take? "?" then
    if ← atEnd then failAt ⟨bracket, bracket + 1⟩ .groupUnclosed
    let items ← flagItems [] ((← remaining) + 1)
    match items.getLast? with
    | some (none, span) => failAt span .flagNegationDangling
    | _ =>
      let closes := (← peek) = some ')'
      drop
      if closes && items = [] then failAt ⟨inner, inner⟩ .repetitionMissing
      setFlags (applyItems (← flags) items)
      return if closes then .flagsOnly else .group
  return .group

def count : Scan (Except Fault Nat) := do
  let spaces := ((← get).rest.takeWhile Text.isBlank).length
  dropMany spaces
  let start ← place
  let digits ← takeWhile Char.isDigit (← remaining)
  let span : Span := ⟨start, ← place⟩
  let _ ← takeWhile Text.isBlank (← remaining)
  let n := digits.foldl (fun n c => n * 10 + (c.toNat - 48)) 0
  return if digits = [] then .error ⟨.countMissing, span, none⟩
    else if n ≥ UInt32.size then .error ⟨.decimalInvalid, span, none⟩
    else .ok n

def needed (count : Except Fault Nat) : Scan Nat := MonadExcept.ofExcept count

def lazyMark : Scan Unit := do
  if (← peek) = some '?' then drop

def counted : Scan (Nat × Option Nat) := do
  let start ← place
  next
  if ← atEnd then failSince start .countUnclosed
  let least ← count
  if ← atEnd then failSince start .countUnclosed
  let (least, most?) ← if (← peek) = some ',' then do
      next
      if ← atEnd then failSince start .countUnclosed
      if (← peek) = some '\x7d' then do
        pure (← needed least, none)
      else do
        let least ← needed least
        let most ← needed (← count)
        pure (least, some most)
    else do
      let least ← needed least
      pure (least, some least)
  if (← peek) ≠ some '\x7d' then failSince start .countUnclosed
  next
  lazyMark
  if most?.any (· < least) then failSince start .countInvalid
  return (least, most?)

inductive Item
  | part (p : Pattern)
  | flags

def patternOf (items : List Item) : Pattern :=
  .seqOf <| items.filterMap fun
    | .part p => some p
    | .flags => none

def repeatLast (items : List Item) (how : Scan (Nat × Option Nat)) : Scan (List Item) := do
  match items.getLast? with
  | some (.part p) =>
    let (least, most?) ← how
    return items.dropLast ++ [.part (.times p least most?)]
  | _ => failHere .repetitionMissing

def simple (least : Nat) (most? : Option Nat) : Scan (Nat × Option Nat) := do
  drop
  lazyMark
  return (least, most?)

def ofPrimitive (span : Span) (primitive : Primitive) : Scan Pattern := do
  let flags ← flags
  match primitive with
  | .char c => return .set (if flags.caseless then .folded (.single c) else .single c)
  | .set s => return .set s
  | .look a => return .look a
  | .dot =>
    if !flags.unicode then note span .invalidUtf8
    let lineEnd : CharSet :=
      if flags.anyLineEnd then .union (.single '\n') (.single '\r') else .single '\n'
    return .set (if flags.dotAll then .complement .none else .complement lineEnd)

def primitive : Scan Pattern := do
  let first ← place
  let flags ← flags
  let p ← match ← peek with
    | some '\\' => escape
    | c? =>
      drop
      pure <| match c?.getD '\x00' with
        | '.' => .dot
        | '^' => .look (if flags.multiline then .startOfLine flags.anyLineEnd else .startOfText)
        | '$' => .look (if flags.multiline then .endOfLine flags.anyLineEnd else .endOfText)
        | c => .char c
  ofPrimitive ⟨first, ← place⟩ p

-- Reads alternatives up to a closing bracket or the end, in at most `n` steps. `branches` are those
-- that are complete.
def alternatives : Nat → List Pattern → List Item → Scan Pattern
  | 0, _, _ => failHere .groupUnclosed
  | n + 1, branches, items => do
    skip
    let whole : Unit → Pattern := fun _ =>
      match branches ++ [patternOf items] with
      | p :: ps => oneOf p ps
      | [] => .empty
    match ← peek with
    | none | some ')' => return whole ()
    | some '|' =>
      drop
      alternatives n (branches ++ [patternOf items]) []
    | some '(' =>
      let before ← flags
      let bracket ← place
      next
      match ← opening bracket with
      | .flagsOnly => alternatives n branches (items ++ [.flags])
      | .group =>
        let p ← alternatives n [] []
        if ← atEnd then failAt ⟨bracket, bracket + 1⟩ .groupUnclosed
        setFlags before
        drop
        alternatives n branches (items ++ [.part p])
    | some '[' => alternatives n branches (items ++ [.part (.set (← bracketed))])
    | some '?' => alternatives n branches (← repeatLast items (simple 0 (some 1)))
    | some '*' => alternatives n branches (← repeatLast items (simple 0 none))
    | some '+' => alternatives n branches (← repeatLast items (simple 1 none))
    | some '\x7b' => alternatives n branches (← repeatLast items counted)
    | some _ => alternatives n branches (items ++ [.part (← primitive)])

def whole : Scan Pattern := do
  let p ← alternatives (2 * (← remaining) + 2) [] []
  if !(← atEnd) then failNext .groupUnopened
  match (← get).later? with
  | some fault => throw fault
  | none => return p

def ofText (text : String) : Except Fault Pattern :=
  whole.run' ⟨0, text.toList, .default, [], none⟩

end LanguageClient.Pattern
