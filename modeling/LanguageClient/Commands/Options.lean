import LanguageClient.CommandLine
import LanguageClient.Text.Count

namespace LanguageClient.Commands
open CommandLine

structure Shared where
  server?   : Option String
  config?   : Option String
  root?     : Option String
  language? : Option String
  deriving DecidableEq, Repr

inductive Task
  | check (file : String) (filter? : Option String) (settle? : Option Nat) (plain : Bool)
  | complete (file : String) (line character : Nat)
  deriving DecidableEq, Repr

def Task.file : Task → String
  | .check file .. | .complete file .. => file

structure Options where
  shared : Shared
  task   : Task
  deriving DecidableEq, Repr

namespace Options

def sharedChoices : List Choice :=
  [valued "lsp", valued "config", lettered "root" 'r', valued "language"]

def checkChoices : List Choice :=
  sharedChoices ++ [lettered "filter" 'f', valued "settle-ms", switch "nocolor"]

def completeChoices : List Choice :=
  sharedChoices ++ [valued "line", valued "character"]

-- The shared options, which may stand before and behind the command; those behind it count. Paths are
-- not empty.
def shared? (before behind : Arguments) : Option Shared :=
  let value? (name : String) := (behind.value? name).or (before.value? name)
  let paths := [before, behind].flatMap fun a => a.values "config" ++ a.values "root"
  if paths.contains "" then none
  else some ⟨value? "lsp", value? "config", value? "root", value? "language"⟩

def file? (a : Arguments) : Option String :=
  match a.operands with
  | [file] => if file = "" then none else some file
  | _ => none

-- A number below `2 ^ 32`. Zero may have a minus sign.
def position? (text : String) : Option Nat :=
  match text.toList with
  | '-' :: zeros => if zeros ≠ [] && zeros.all (· = '0') then some 0 else none
  | cs => (Text.readCount UInt32.size cs).toOption

def optional? (read : String → Option α) : Option String → Option (Option α)
  | none => some none
  | some text => (read text).map some

def check? (a : Arguments) : Option Task := do
  let file ← file? a
  let settle? ← optional? (fun t => (Text.readCount UInt64.size t.toList).toOption) (a.value? "settle-ms")
  return .check file (a.value? "filter") settle? (a.has "nocolor")

def complete? (a : Arguments) : Option Task := do
  return .complete (← file? a) (← position? (← a.value? "line")) (← position? (← a.value? "character"))

def ofArguments? (arguments : List String) : Option Options := do
  let (before, rest) ← sort? sharedChoices true .empty arguments
  match before.operands with
  | ["check"] =>
    let (behind, _) ← sort? checkChoices false .empty rest
    return ⟨← shared? before behind, ← check? behind⟩
  | ["complete"] =>
    let (behind, _) ← sort? completeChoices false .empty rest
    return ⟨← shared? before behind, ← complete? behind⟩
  | _ => none

end Options
end LanguageClient.Commands
