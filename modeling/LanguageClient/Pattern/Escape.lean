import LanguageClient.Pattern.Scan

namespace LanguageClient.Pattern
open Scan

inductive Primitive
  | char (c : Char)
  | set (s : CharSet)
  | look (a : Assertion)
  | dot

def isMeta (c : Char) : Bool := "\\.+*?()|[]\x7b\x7d^$#&-~".toList.contains c

def isEscapable (c : Char) : Bool :=
  isMeta c || (c.toNat < 128 && !Text.isAsciiAlphanumeric c && c ≠ '<' && c ≠ '>')

def hexValue? (c : Char) : Option Nat :=
  if c.isDigit then some (c.toNat - 48)
  else if 'a' ≤ c && c ≤ 'f' then some (c.toNat - 87)
  else if 'A' ≤ c && c ≤ 'F' then some (c.toNat - 55)
  else none

def hexNumber (cs : List Char) : Nat := cs.foldl (fun n c => n * 16 + (hexValue? c).getD 0) 0

def charOf? (code : Nat) : Option Char :=
  if code < 0xD800 || (0xDFFF < code && code ≤ 0x10FFFF) then some (Char.ofNat code) else none

def hexDigits (first : Bool) : Nat → Scan (List Char)
  | 0 => return []
  | n + 1 => do
    if !first then next
    match ← peek with
    | none => failHere .escapeUnfinished
    | some c =>
      if (hexValue? c).isNone then failNext .hexDigitInvalid
      return c :: (← hexDigits false n)

def hexFixed (digits : Nat) : Scan Char := do
  let start ← place
  let cs ← hexDigits true digits
  next
  match charOf? (hexNumber cs) with
  | some c => return c
  | none => failSince start .hexInvalid

def hexBraced : Scan Char := do
  let brace ← place
  next
  let cs ← takeWhile (fun c => (hexValue? c).isSome) (← remaining)
  match ← peek with
  | none => failSince brace .escapeUnfinished
  | some '\x7d' =>
    let last ← place
    next
    if cs = [] then failSince brace .hexEmpty
    match charOf? (hexNumber cs) with
    | some c => return c
    | none => failAt ⟨brace + 1, last⟩ .hexInvalid
  | some _ => failNext .hexDigitInvalid

def hex (digits : Nat) : Scan Char := do
  next
  match ← peek with
  | none => failHere .escapeUnfinished
  | some '\x7b' => hexBraced
  | some _ => hexFixed digits

def splitProperty? (cs : List Char) : Option (Bool × List Char × List Char) :=
  let rec notEqual? (before : List Char) : List Char → Option (List Char × List Char)
    | '!' :: '=' :: rest => some (before.reverse, rest)
    | c :: rest => notEqual? (c :: before) rest
    | [] => none
  match notEqual? [] cs with
  | some (name, value) => some (true, name, value)
  | none =>
    match Text.cut? ':' cs with
    | some (name, value) => some (false, name, value)
    | none => (Text.cut? '=' cs).map fun (name, value) => (false, name, value)

def propertySet (cs : List Char) : Except Problem CharSet :=
  match splitProperty? cs with
  | none =>
    match CharSet.property? (String.ofList cs) with
    | some s => .ok s
    | none => .error .propertyUnknown
  | some (negated, name, value) =>
    match CharSet.valuesOf? (String.ofList name) with
    | none => .error .propertyUnknown
    | some values =>
      match CharSet.find? values (String.ofList value) with
      | some s => .ok (s.negatedIf negated)
      | none => .error .propertyValueUnknown

def property (start : Nat) (negated : Bool) : Scan CharSet := do
  next
  let name ← match ← peek with
    | none => failHere .escapeUnfinished
    | some '\x7b' =>
      next
      let name ← takeWhile (· ≠ '\x7d') (← remaining)
      if ← atEnd then failHere .escapeUnfinished
      drop
      pure name
    | some '\\' => failNext .unicodeClassInvalid
    | some c =>
      next
      pure [c]
  let span : Span := ⟨start, ← place⟩
  if !(← flags).unicode then note span .unicodeNotAllowed
  match propertySet name with
  | .ok s => return s.negatedIf negated
  | .error problem =>
    note span problem
    return .none

def boundaryNamed? : String → Option Assertion
  | "start" => some .wordStart
  | "end" => some .wordEnd
  | "start-half" => some .notAfterWord
  | "end-half" => some .notBeforeWord
  | _ => none

def isBoundaryNameChar (c : Char) : Bool :=
  ('a' ≤ c && c ≤ 'z') || ('A' ≤ c && c ≤ 'Z') || c = '-'

def wordBoundary (escape : Nat) : Scan Assertion := do
  if (← peek) ≠ some '\x7b' then return .wordBoundary
  let before ← get
  let brace ← place
  next
  match ← peek with
  | none => failSince escape .boundaryUnfinished
  | some c =>
    if !isBoundaryNameChar c then
      modify fun _ => before
      return .wordBoundary
    let first ← place
    let name ← takeWhile isBoundaryNameChar (← remaining)
    if (← peek) ≠ some '\x7d' then failSince brace .boundaryUnclosed
    let last ← place
    drop
    match boundaryNamed? (String.ofList name) with
    | some a => return a
    | none => failAt ⟨first, last⟩ .boundaryUnknown

def letterSet? (c : Char) : Option (Bool × CharSet) :=
  match c with
  | 'd' => some (false, .digit)
  | 'D' => some (true, .digit)
  | 's' => some (false, .satisfying Text.isBlank)
  | 'S' => some (true, .satisfying Text.isBlank)
  | 'w' => some (false, .satisfying Text.isWordChar)
  | 'W' => some (true, .satisfying Text.isWordChar)
  | _ => none

def controlChar? (c : Char) : Option Char :=
  match c with
  | 'a' => some '\x07'
  | 'f' => some '\x0c'
  | 't' => some '\t'
  | 'n' => some '\n'
  | 'r' => some '\r'
  | 'v' => some '\x0b'
  | _ => none

def letter (start : Nat) (c : Char) : Scan Primitive := do
  if isEscapable c then return .char c
  match controlChar? c with
  | some c => return .char c
  | none =>
    match c with
    | 'A' => return .look .startOfText
    | 'z' => return .look .endOfText
    | 'b' => return .look (← wordBoundary start)
    | 'B' => return .look .noWordBoundary
    | '<' => return .look .wordStart
    | '>' => return .look .wordEnd
    | _ => failSince start .escapeUnknown

def escape : Scan Primitive := do
  let start ← place
  drop
  match ← peek with
  | none => failSince start .escapeUnfinished
  | some c =>
    if c.isDigit then failAt ⟨start, (← place) + 1⟩ .backreference
    match c with
    | 'x' => return .char (← hex 2)
    | 'u' => return .char (← hex 4)
    | 'U' => return .char (← hex 8)
    | 'p' | 'P' => return .set (← property start (c = 'P'))
    | _ =>
      drop
      match letterSet? c with
      | some (negated, s) =>
        if negated && !(← flags).unicode then note ⟨start, ← place⟩ .invalidUtf8
        return .set (s.negatedIf negated)
      | none => letter start c

end LanguageClient.Pattern
