import LanguageClient.Protocol.Diagnostic
import LanguageClient.Text.Lines
import LanguageClient.Text.Occurrence
import LanguageClient.Text.Word

namespace LanguageClient.MockServer
open Protocol

def complaint (line first last : Nat) (severity : Severity) (message : String) : Diagnostic where
  range    := ⟨⟨line, first⟩, ⟨line, last⟩⟩
  severity := some severity
  code     := some (.text "mock")
  codeUri  := none
  source   := some "mockls"
  message  := message
  related  := none
  tags     := none
  data     := none

def needles : List (String × Severity) :=
  [("error", .error), ("warning", .warning)]

def scanLine (number : Nat) (line : List Char) : List Diagnostic :=
  needles.flatMap fun (word, severity) =>
    (Text.occurrences word.toList 0 line).map fun column =>
      complaint number column (column + word.length) severity ("mockls: found `" ++ word ++ "`")

def scanLines (number : Nat) : List (List Char) → List Diagnostic
  | [] => []
  | line :: rest => scanLine number line ++ scanLines (number + 1) rest

def scan (text : String) : List Diagnostic :=
  scanLines 0 (Text.lines text.toList)

def insertWord (word : String) : List String → List String
  | [] => [word]
  | w :: ws =>
    if word < w then word :: w :: ws else if word = w then w :: ws else w :: insertWord word ws

def vocabulary (text : String) : List String :=
  (Text.runsOf Text.isWordChar text.toList).foldl (fun ws w => insertWord (String.ofList w) ws) []

end LanguageClient.MockServer
