import LanguageClient.Text.Lines

namespace LanguageClient.Pattern

inductive Problem
  | classEscapeInvalid
  | classRangeInvalid
  | classRangeLiteral
  | classUnclosed
  | decimalInvalid
  | hexEmpty
  | hexInvalid
  | hexDigitInvalid
  | escapeUnfinished
  | escapeUnknown
  | flagNegationDangling
  | flagRepeated
  | flagNegationRepeated
  | flagsUnfinished
  | flagUnknown
  | groupNameRepeated
  | groupNameEmpty
  | groupNameInvalid
  | groupNameUnclosed
  | groupUnclosed
  | groupUnopened
  | countInvalid
  | countMissing
  | countUnclosed
  | repetitionMissing
  | boundaryUnclosed
  | boundaryUnknown
  | boundaryUnfinished
  | unicodeClassInvalid
  | backreference
  | lookAround
  | unicodeNotAllowed
  | invalidUtf8
  | propertyUnknown
  | propertyValueUnknown
  deriving DecidableEq, Repr

def Problem.message : Problem → String
  | .classEscapeInvalid => "invalid escape sequence found in character class"
  | .classRangeInvalid => "invalid character class range, the start must be <= the end"
  | .classRangeLiteral => "invalid range boundary, must be a literal"
  | .classUnclosed => "unclosed character class"
  | .decimalInvalid => "decimal literal invalid"
  | .hexEmpty => "hexadecimal literal empty"
  | .hexInvalid => "hexadecimal literal is not a Unicode scalar value"
  | .hexDigitInvalid => "invalid hexadecimal digit"
  | .escapeUnfinished => "incomplete escape sequence, reached end of pattern prematurely"
  | .escapeUnknown => "unrecognized escape sequence"
  | .flagNegationDangling => "dangling flag negation operator"
  | .flagRepeated => "duplicate flag"
  | .flagNegationRepeated => "flag negation operator repeated"
  | .flagsUnfinished => "expected flag but got end of regex"
  | .flagUnknown => "unrecognized flag"
  | .groupNameRepeated => "duplicate capture group name"
  | .groupNameEmpty => "empty capture group name"
  | .groupNameInvalid => "invalid capture group character"
  | .groupNameUnclosed => "unclosed capture group name"
  | .groupUnclosed => "unclosed group"
  | .groupUnopened => "unopened group"
  | .countInvalid => "invalid repetition count range, the start must be <= the end"
  | .countMissing => "repetition quantifier expects a valid decimal"
  | .countUnclosed => "unclosed counted repetition"
  | .repetitionMissing => "repetition operator missing expression"
  | .boundaryUnclosed =>
    "special word boundary assertion is either unclosed or contains an invalid character"
  | .boundaryUnknown =>
    "unrecognized special word boundary assertion, valid choices are: start, end, start-half or "
      ++ "end-half"
  | .boundaryUnfinished =>
    "found either the beginning of a special word boundary or a bounded repetition on a \\b with "
      ++ "an opening brace, but no closing brace"
  | .unicodeClassInvalid => "invalid Unicode character class"
  | .backreference => "backreferences are not supported"
  | .lookAround => "look-around, including look-ahead and look-behind, is not supported"
  | .unicodeNotAllowed => "Unicode not allowed here"
  | .invalidUtf8 => "pattern can match invalid UTF-8"
  | .propertyUnknown => "Unicode property not found"
  | .propertyValueUnknown => "Unicode property value not found"

structure Span where
  first : Nat
  last  : Nat
  deriving DecidableEq, Repr

structure Fault where
  problem : Problem
  span    : Span
  also?   : Option Span
  deriving DecidableEq, Repr

def lineColumn (text : List Char) (place : Nat) : Nat × Nat :=
  (text.take place).foldl (fun (line, column) c =>
    if c = '\n' then (line + 1, 0) else (line, column + 1)) (0, 0)

structure Mark where
  line   : Nat
  column : Nat
  width  : Nat
  deriving DecidableEq, Repr

def marksOf (text : List Char) (spans : List Span) : List Mark × List String :=
  spans.foldr (fun span (marks, notes) =>
    let (line, column) := lineColumn text span.first
    let (line', column') := lineColumn text span.last
    if line = line' then (⟨line, column, max 1 (column' - column)⟩ :: marks, notes)
    else
      let place (line column : Nat) := toString line ++ " (column " ++ toString column ++ ")"
      (marks, ("on line " ++ place (line + 1) (column + 1) ++ " through line "
        ++ place (line' + 1) column') :: notes)) ([], [])

def underline (marks : List Mark) : String :=
  let ordered := marks.mergeSort fun a b => a.column ≤ b.column
  ordered.foldl (fun s m =>
    s ++ String.ofList (List.replicate (m.column - s.length) ' ' ++ List.replicate m.width '^')) ""

def padLeft (width : Nat) (s : String) : String :=
  String.ofList (List.replicate (width - s.length) ' ') ++ s

def excerpt (text : String) (marks : List Mark) : String :=
  let lines := Text.lines text.toList
  let count := lines.length + if text.toList.getLast? = some '\n' then 1 else 0
  let width := if count ≤ 1 then 0 else (toString count).length
  let numbered := lines.zipIdx.map fun (line, i) =>
    let margin := if width = 0 then "    " else padLeft width (toString (i + 1)) ++ ": "
    let below := marks.filter (·.line = i)
    let note := if below = [] then ""
      else padLeft margin.length "" ++ underline below ++ "\n"
    margin ++ String.ofList line ++ "\n" ++ note
  String.join numbered

def rule : String := String.ofList (List.replicate 79 '~') ++ "\n"

def Fault.report (text : String) (f : Fault) : String :=
  let (marks, notes) := marksOf text.toList (f.span :: f.also?.toList)
  let shown := excerpt text marks
  let body :=
    if text.toList.contains '\n' then
      rule ++ shown ++ rule ++ (if notes = [] then "" else "\n".intercalate notes ++ "\n")
    else shown
  "regex parse error:\n" ++ body ++ "error: " ++ f.problem.message

end LanguageClient.Pattern
