import LanguageClient.Text.Blank
import LanguageClient.Text.Case
import LanguageClient.Text.Count
import LanguageClient.Text.Lines
import LanguageClient.Text.Word

namespace LanguageClient.LogFilter

inductive Level
  | off
  | error
  | warn
  | info
  | debug
  | trace
  deriving DecidableEq, Repr

structure Directive where
  level   : Level
  target? : Option String
  span?   : Option String
  fields  : List String
  deriving DecidableEq, Repr

inductive Fault
  | directive
  | level
  deriving DecidableEq, Repr

def Fault.message : Fault → String
  | .directive => "invalid filter directive"
  | .level =>
    "error parsing level filter: expected one of \"off\", \"error\", \"warn\", \"info\", "
      ++ "\"debug\", \"trace\", or a number 0-5"

def Fault.causes : Fault → List String
  | .directive => [Fault.directive.message]
  | .level => [Fault.level.message, Fault.level.message]

def Level.ofText? (cs : List Char) : Option Level :=
  match Text.readCount UInt64.size cs with
  | .ok n => [Level.off, .error, .warn, .info, .debug, .trace][n]?
  | .error _ =>
    match String.ofList (cs.map Text.lowerAscii) with
    | "off" => some .off
    | "" | "error" => some .error
    | "warn" => some .warn
    | "info" => some .info
    | "debug" => some .debug
    | "trace" => some .trace
    | _ => none

-- Where a directive stands between two of its characters; a part that is being read is known by the
-- place where it begins.
inductive Mode
  | start
  | target (first : Nat)
  | span (first : Nat)
  | field (first : Nat)
  | fieldsDone
  | spanDone
  | level (first : Nat)

structure State where
  mode      : Mode
  directive : Directive

def levelOrAll (cs : List Char) : Except Fault Level :=
  if cs = [] then .ok .trace
  else
    match Level.ofText? cs with
    | some l => .ok l
    | none => .error .level

def step (part : Nat → String) (i : Nat) (s : State) (c : Char) : Except Fault State :=
  let d := s.directive
  match s.mode, c with
  | .start, '[' => .ok { s with mode := .span (i + 1) }
  | .start, c =>
    if c = '-' || c = ':' || c = '_' || Text.isAlphanumeric c then .ok { s with mode := .target i }
    else .error .directive
  | .target first, '=' => .ok ⟨.level (i + 1), { d with target? := some (part first) }⟩
  | .target first, '[' => .ok ⟨.span (i + 1), { d with target? := some (part first) }⟩
  | .target _, _ => .ok s
  | .span first, ']' => .ok ⟨.spanDone, { d with span? := some (part first) }⟩
  | .span first, '\x7b' =>
    let name := part first
    .ok ⟨.field (i + 1), { d with span? := if name = "" then none else some name }⟩
  | .span _, _ => .ok s
  | .field first, '\x7d' =>
    let name := part first
    if name = "" then .error .directive
    else .ok ⟨.fieldsDone, { d with fields := d.fields ++ [name] }⟩
  | .field _, _ => .ok s
  | .fieldsDone, ']' => .ok { s with mode := .spanDone }
  | .fieldsDone, _ => .error .directive
  | .spanDone, '=' => .ok { s with mode := .level (i + 1) }
  | .spanDone, _ => .error .directive
  | .level _, _ => .ok s

def finish (rest : Nat → List Char) (s : State) : Except Fault Directive :=
  match s.mode with
  | .target first =>
    match Level.ofText? (rest first) with
    | some level => .ok { s.directive with level }
    | none => .ok { s.directive with target? := some (String.ofList (rest first)) }
  | .level first => (levelOrAll (rest first)).map fun level => { s.directive with level }
  | .spanDone => .ok s.directive
  | .start | .span _ | .field _ | .fieldsDone => .error .directive

def run (part : Nat → Nat → String) (s : State) (i : Nat) : List Char → Except Fault State
  | [] => .ok s
  | c :: cs =>
    match step (part · i) i s c with
    | .error e => .error e
    | .ok s => run part s (i + 1) cs

-- Reads a directive. Its places are counted without the blanks at its beginning, but its parts are
-- taken with them; so a level behind such blanks is not found.
def Directive.ofText (cs : List Char) : Except Fault Directive :=
  let part (first last : Nat) : String := String.ofList ((cs.drop first).take (last - first))
  match run part ⟨.start, ⟨.trace, none, none, []⟩⟩ 0 (Text.trim cs) with
  | .error e => .error e
  | .ok s => finish cs.drop s

def directives : List (List Char) → Except Fault (List Directive)
  | [] => .ok []
  | cs :: rest =>
    match Directive.ofText cs with
    | .error e => .error e
    | .ok d => (directives rest).map (d :: ·)

def ofText (text : String) : Except Fault (List Directive) :=
  directives ((Text.split ',' text.toList).filter (· ≠ []))

end LanguageClient.LogFilter
