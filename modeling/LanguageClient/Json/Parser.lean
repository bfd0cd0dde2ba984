import LanguageClient.Json.Numeral
import LanguageClient.Text.Utf8

namespace LanguageClient.Json

inductive Cause
  | endInList
  | endInObject
  | endInString
  | endInValue
  | expectedColon
  | expectedListEnd
  | expectedObjectEnd
  | expectedLiteral
  | expectedValue
  | invalidEscape
  | invalidNumber
  | numberOutOfRange
  | controlCharacter
  | keyNotString
  | loneSurrogate
  | endOfSurrogates
  | trailingComma
  | trailingCharacters
  | tooDeep
  deriving DecidableEq, Repr

def Cause.message : Cause → String
  | .endInList => "EOF while parsing a list"
  | .endInObject => "EOF while parsing an object"
  | .endInString => "EOF while parsing a string"
  | .endInValue => "EOF while parsing a value"
  | .expectedColon => "expected `:`"
  | .expectedListEnd => "expected `,` or `]`"
  | .expectedObjectEnd => "expected `,` or `\x7d`"
  | .expectedLiteral => "expected ident"
  | .expectedValue => "expected value"
  | .invalidEscape => "invalid escape"
  | .invalidNumber => "invalid number"
  | .numberOutOfRange => "number out of range"
  | .controlCharacter => "control character (\\u0000-\\u001F) found while parsing a string"
  | .keyNotString => "key must be a string"
  | .loneSurrogate => "lone leading surrogate in hex escape"
  | .endOfSurrogates => "unexpected end of hex escape"
  | .trailingComma => "trailing comma"
  | .trailingCharacters => "trailing characters"
  | .tooDeep => "recursion limit exceeded"

-- Where a string stands between two of its characters. A code point beyond U+FFFF is written as two
-- escapes, and `high` is the first of them.
inductive Escape
  | none
  | backslash
  | hex (high : Option Nat) (bytes value : Nat) (bad : Bool)
  | highDone (high : Nat)
  | highBackslash (high : Nat)
  deriving DecidableEq, Repr

structure Quoted where
  chars  : List Char
  escape : Escape
  deriving DecidableEq, Repr

inductive Frame
  | array (items : List Json)
  | object (members : Members) (key : String)

inductive Mode
  | value
  | item (first : Bool)
  | key (first : Bool)
  | colon
  | after
  | finished (v : Json)
  | literal (rest : List Char) (v : Json)
  | string (isKey : Bool) (q : Quoted)
  | number (n : Numeral)

structure State where
  stack : List Frame
  mode  : Mode

-- A machine stops at a character for a cause; `bytes` of the character count as read.
abbrev Stop := Cause × Nat

def maxDepth : Nat := 127

def isSpace (c : Char) : Bool :=
  c = ' ' || c = '\t' || c = '\n' || c = '\r'

def put (stack : List Frame) (v : Json) : State :=
  match stack with
  | [] => ⟨[], .finished v⟩
  | .array items :: rest => ⟨.array (v :: items) :: rest, .after⟩
  | .object members key :: rest => ⟨.object (Members.insert key v members) "" :: rest, .after⟩

def close : List Frame → State
  | .array items :: rest => put rest (.arr items.reverse)
  | .object members _ :: rest => put rest (.obj members)
  | [] => ⟨[], .finished .null⟩

def openFrame (stack : List Frame) (frame : Frame) (mode : Mode) : Except Stop State :=
  if stack.length < maxDepth then .ok ⟨frame :: stack, mode⟩ else .error (.tooDeep, 1)

def valueStep (stack : List Frame) (c : Char) : Except Stop State :=
  match c with
  | 'n' => .ok ⟨stack, .literal ['u', 'l', 'l'] .null⟩
  | 't' => .ok ⟨stack, .literal ['r', 'u', 'e'] (.bool true)⟩
  | 'f' => .ok ⟨stack, .literal ['a', 'l', 's', 'e'] (.bool false)⟩
  | '"' => .ok ⟨stack, .string false ⟨[], .none⟩⟩
  | '[' => openFrame stack (.array []) (.item true)
  | '{' => openFrame stack (.object [] "") (.key true)
  | '-' => .ok ⟨stack, .number Numeral.ofSign⟩
  | c =>
    if c.isDigit then .ok ⟨stack, .number (Numeral.ofDigit false c)⟩ else .error (.expectedValue, 1)

def afterStep (s : State) (c : Char) : Except Stop State :=
  if isSpace c then .ok s
  else
    match s.stack with
    | [] => .error (.trailingCharacters, 1)
    | .array items :: rest =>
      if c = ',' then .ok ⟨.array items :: rest, .item false⟩
      else if c = ']' then .ok (close (.array items :: rest))
      else .error (.expectedListEnd, 1)
    | .object members key :: rest =>
      if c = ',' then .ok ⟨.object members key :: rest, .key false⟩
      else if c = '}' then .ok (close (.object members key :: rest))
      else .error (.expectedObjectEnd, 1)

def hexValue? (c : Char) : Option Nat :=
  let n := c.toNat
  if 48 ≤ n && n ≤ 57 then some (n - 48)
  else if 65 ≤ n && n ≤ 70 then some (n - 55)
  else if 97 ≤ n && n ≤ 102 then some (n - 87)
  else none

-- Four digits of an escape have been read. Halves of a pair must come as a pair.
def hexDone (chars : List Char) (high : Option Nat) (value : Nat) : Except Stop Quoted :=
  match high with
  | some high =>
    if 0xDC00 ≤ value && value ≤ 0xDFFF then
      .ok ⟨Char.ofNat ((high - 0xD800) * 1024 + (value - 0xDC00) + 0x10000) :: chars, .none⟩
    else .error (.loneSurrogate, 1)
  | none =>
    if 0xDC00 ≤ value && value ≤ 0xDFFF then .error (.loneSurrogate, 1)
    else if 0xD800 ≤ value && value ≤ 0xDBFF then .ok ⟨chars, .highDone value⟩
    else .ok ⟨Char.ofNat value :: chars, .none⟩

-- One character of the four bytes that an escape takes for its digits. All four are read before
-- they are looked at.
def hexStep (chars : List Char) (high : Option Nat) (bytes value : Nat) (bad : Bool) (c : Char) :
    Except Stop Quoted :=
  let bytes' := bytes + c.utf8Size
  let bad' := bad || (hexValue? c).isNone
  let value' := value * 16 + (hexValue? c).getD 0
  if bytes' < 4 then .ok ⟨chars, .hex high bytes' value' bad'⟩
  else if bad' then .error (.invalidEscape, 4 - bytes)
  else hexDone chars high value'

def Quoted.step (q : Quoted) (c : Char) : Except Stop (Option Quoted) :=
  match q.escape with
  | .none =>
    if c = '"' then .ok none
    else if c = '\\' then .ok (some { q with escape := .backslash })
    else if c.toNat < 32 then .error (.controlCharacter, 1)
    else .ok (some ⟨c :: q.chars, .none⟩)
  | .backslash =>
    let plain (d : Char) : Except Stop (Option Quoted) := .ok (some ⟨d :: q.chars, .none⟩)
    match c with
    | '"' => plain '"'
    | '\\' => plain '\\'
    | '/' => plain '/'
    | 'b' => plain '\x08'
    | 'f' => plain '\x0c'
    | 'n' => plain '\n'
    | 'r' => plain '\r'
    | 't' => plain '\t'
    | 'u' => .ok (some { q with escape := .hex none 0 0 false })
    | _ => .error (.invalidEscape, 1)
  | .hex high bytes value bad => (hexStep q.chars high bytes value bad c).map some
  | .highDone high =>
    if c = '\\' then .ok (some { q with escape := .highBackslash high })
    else .error (.endOfSurrogates, 1)
  | .highBackslash high =>
    if c = 'u' then .ok (some { q with escape := .hex (some high) 0 0 false })
    else .error (.endOfSurrogates, 1)

def endString (stack : List Frame) (isKey : Bool) (q : Quoted) : State :=
  let s := String.ofList q.chars.reverse
  match isKey, stack with
  | true, .object members _ :: rest => ⟨.object members s :: rest, .colon⟩
  | _, stack => put stack (.str s)

def keyStep (stack : List Frame) (first : Bool) (c : Char) : Except Stop State :=
  if c = '"' then .ok ⟨stack, .string true ⟨[], .none⟩⟩
  else if c = '}' then if first then .ok (close stack) else .error (.trailingComma, 1)
  else .error (.keyNotString, 1)

def step (s : State) (c : Char) : Except Stop State :=
  match s.mode with
  | .value => if isSpace c then .ok s else valueStep s.stack c
  | .item first =>
    if isSpace c then .ok s
    else if c = ']' then if first then .ok (close s.stack) else .error (.trailingComma, 1)
    else valueStep s.stack c
  | .key first => if isSpace c then .ok s else keyStep s.stack first c
  | .colon =>
    if isSpace c then .ok s
    else if c = ':' then .ok { s with mode := .value } else .error (.expectedColon, 1)
  | .after | .finished _ => afterStep s c
  | .literal [] v => afterStep (put s.stack v) c
  | .literal (d :: rest) v =>
    if c ≠ d then .error (.expectedLiteral, 1)
    else if rest = [] then .ok (put s.stack v)
    else .ok { s with mode := .literal rest v }
  | .string isKey q =>
    match q.step c with
    | .error stop => .error stop
    | .ok none => .ok (endString s.stack isKey q)
    | .ok (some q) => .ok { s with mode := .string isKey q }
  | .number n =>
    match n.step c with
    | .more n => .ok { s with mode := .number n }
    | .invalid => .error (.invalidNumber, 1)
    | .outOfRange => .error (.numberOutOfRange, 1)
    | .over =>
      match n.value with
      | none => .error (.numberOutOfRange, 0)
      | some v => afterStep (put s.stack (.num v)) c

def endAfter (s : State) : Except Cause Json :=
  match s.mode, s.stack with
  | .finished v, _ => .ok v
  | _, .object _ _ :: _ => .error .endInObject
  | _, _ => .error .endInList

def finish (s : State) : Except Cause Json :=
  match s.mode with
  | .value => .error .endInValue
  | .item first => .error (if first then .endInList else .endInValue)
  | .key first => .error (if first then .endInObject else .endInValue)
  | .colon => .error .endInObject
  | .after | .finished _ => endAfter s
  | .literal _ _ => .error .endInValue
  | .string _ _ => .error .endInString
  | .number n =>
    if n.isComplete then
      match n.value with
      | none => .error .numberOutOfRange
      | some v => endAfter (put s.stack (.num v))
    else .error .endInValue

def run (s : State) : List Char → Except (Stop × List Char) State
  | [] => .ok s
  | c :: cs =>
    match step s c with
    | .ok s' => run s' cs
    | .error stop => .error (stop, c :: cs)

structure Fault where
  cause  : Cause
  line   : Nat
  column : Nat
  deriving DecidableEq, Repr

def Fault.message (f : Fault) : String :=
  f.cause.message ++ s!" at line {f.line} column {f.column}"

-- The fault after `bytes`: lines end at line feeds, and the column counts bytes.
def Fault.after (bytes : Bytes) (cause : Cause) : Fault where
  cause := cause
  line := bytes.count 10 + 1
  column := (bytes.reverse.takeWhile (· ≠ 10)).length

def start : State := ⟨[], .value⟩

def parse (text : String) : Except Fault Json :=
  match run start text.toList with
  | .ok s => (finish s).mapError (Fault.after (Utf8.encode text))
  | .error ((cause, bytes), rest) =>
    let total := Utf8.encode text
    .error (Fault.after (total.take (total.length - Utf8.size rest + bytes)) cause)

end LanguageClient.Json
