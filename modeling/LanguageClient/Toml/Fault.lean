import LanguageClient.Toml.Document

namespace LanguageClient.Toml

inductive Problem
  | emptyKey
  | keyCharacter
  | keyAlone
  | keyRepeated
  | tableUnclosed
  | tablesUnclosed
  | textUnquoted
  | textUnclosed (quote : Char)
  | listUnclosed
  | entriesUnclosed
  | excess
  deriving DecidableEq, Repr

def Problem.message : Problem → String
  | .emptyKey => "unquoted keys cannot be empty, expected letters, numbers, `-`, `_`"
  | .keyCharacter => "invalid unquoted key, expected letters, numbers, `-`, `_`"
  | .keyAlone => "key with no value, expected `=`"
  | .keyRepeated => "duplicate key"
  | .tableUnclosed => "unclosed table, expected `]`"
  | .tablesUnclosed => "unclosed array table, expected `]]`"
  | .textUnquoted => "string values must be quoted, expected literal string"
  | .textUnclosed quote =>
    (if quote = '"' then "invalid basic string" else "invalid literal string")
      ++ ", expected `" ++ String.singleton quote ++ "`"
  | .listUnclosed => "unclosed array, expected `]`"
  | .entriesUnclosed => "unclosed inline table, expected `\x7d`"
  | .excess => "unexpected key or value, expected newline, `#`"

structure Finding where
  problem : Problem
  rest    : Rest
  width   : Nat

def endsWord (c : Char) : Bool := isAnyBlank c || "=,#[]\x7b\x7d\"'".toList.contains c

def wordWidth (cs : List Char) : Nat := (cs.takeWhile (!endsWord ·)).length

def findInKeys (cs : List Char) : Finding :=
  let cs := dropBlanks cs
  match cs with
  | '"' :: _ | '\'' :: _ =>
    ⟨.textUnclosed (cs.headD '"'), cs.dropWhile fun c => c ≠ '\n' && c ≠ '\r', 1⟩
  | _ =>
    if (cs.takeWhile isBareChar) = [] && wordWidth cs = 0 then ⟨.emptyKey, cs, 1⟩
    else ⟨.keyCharacter, cs.dropWhile isBareChar, 1⟩

def findInValue (cs : List Char) : Finding :=
  match cs with
  | '"' :: _ | '\'' :: _ =>
    ⟨.textUnclosed (cs.headD '"'), cs.dropWhile fun c => c ≠ '\n' && c ≠ '\r', 1⟩
  | '[' :: _ => ⟨.listUnclosed, [], 1⟩
  | '{' :: _ => ⟨.entriesUnclosed, [], 1⟩
  | _ => ⟨.textUnquoted, cs, wordWidth cs⟩

def lastKey (cs : List Char) : Finding :=
  match path? cs with
  | some (path, _) =>
    if path.within = [] then ⟨.keyRepeated, dropBlanks cs, path.last.length⟩
    else ⟨.keyRepeated, dropBlanks ((cs.dropWhile (· ≠ '.')).drop 1), path.last.length⟩
  | none => ⟨.keyRepeated, cs, 1⟩

def find (d : Document) (cs : List Char) : Finding :=
  let cs := dropBlanks cs
  let header (problem : Problem) (closing : List Char) (inside : List Char) : Finding :=
    match d.line? cs, path? inside with
    | some (_, rest), _ => ⟨.excess, dropBlanks rest, 1⟩
    | none, none => findInKeys inside
    | none, some (_, rest) =>
      if closing.isPrefixOf rest then lastKey inside else ⟨problem, rest, 1⟩
  match cs with
  | '[' :: '[' :: inside => header .tablesUnclosed [']', ']'] inside
  | '[' :: inside => header .tableUnclosed [']'] inside
  | _ =>
    match path? cs with
    | none => findInKeys cs
    | some (_, '=' :: rest) =>
      match value? (dropBlanks rest), d.line? cs with
      | none, _ => findInValue (dropBlanks rest)
      | some _, none => lastKey cs
      | some _, some (_, rest) => ⟨.excess, dropBlanks rest, 1⟩
    | some (_, rest) =>
      let behind := cs.dropWhile isBareChar
      if wordWidth behind > 0 then ⟨.keyCharacter, behind, 1⟩ else ⟨.keyAlone, rest, 1⟩

def report (text : String) (found : Finding) : String :=
  let cs := body text
  let before := cs.take (cs.length - found.rest.length)
  let line := before.count '\n'
  let column := (before.reverse.takeWhile (· ≠ '\n')).length
  let shown := ((cs.splitOnP (· = '\n'))[line]?).getD []
  let number := toString (line + 1)
  let margin := String.ofList (List.replicate (number.length + 1) ' ') ++ "|"
  let marks := max 1 (min found.width (shown.length - column))
  let mark := String.ofList (List.replicate (column + 1) ' ' ++ List.replicate marks '^')
  "TOML parse error at line " ++ number ++ ", column " ++ toString (column + 1) ++ "\n"
    ++ margin ++ "\n" ++ number ++ " | " ++ String.ofList shown ++ "\n"
    ++ margin ++ mark ++ "\n" ++ found.problem.message ++ "\n"

end LanguageClient.Toml
