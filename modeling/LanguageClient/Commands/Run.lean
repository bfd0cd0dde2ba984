import LanguageClient.Commands.Launch
import LanguageClient.Config.Sources
import LanguageClient.Files
import LanguageClient.LogFilter
import LanguageClient.Pattern.Parser
import LanguageClient.Report
import LanguageClient.Transport.Exchange

namespace LanguageClient.Commands

structure Surroundings where
  files       : Files
  environment : List (String × String)
  programs    : List (String × (List String → Program))
  colored     : Bool
  width       : Nat

structure Ended where
  code : Nat
  out  : String
  err  : String
  deriving DecidableEq, Repr

namespace Surroundings

def valueOf? (w : Surroundings) (name : String) : Option String :=
  (w.environment.find? (·.1 = name)).map (·.2)

-- The program that a command starts, or why there is none. No file of the tree is a program.
def program (w : Surroundings) (command : String) (args : List String) : Except String Program :=
  match w.programs.find? (·.1 = command) with
  | some (_, make) => .ok (make args)
  | none =>
    if command.toList.contains '/' then
      match w.files.resolve command with
      | .ok _ => .error "Permission denied (os error 13)"
      | .error fault => .error fault.message
    else .error Piped.notFound

def userConfig? (w : Surroundings) : Option String :=
  let directory? := match w.valueOf? "XDG_CONFIG_HOME" with
    | some d => if Files.isAbsolute d then some d else none
    | none => none
  let home? := match w.valueOf? "HOME" with
    | some h => if h = "" then none else some (h ++ "/.config")
    | none => none
  (directory?.or home?).map (· ++ "/conduit/config.toml")

def paths (w : Surroundings) (options : Options) : List String :=
  let configs := (w.userConfig?.toList ++ options.shared.config?.toList).flatMap fun name =>
    [name, name ++ ".toml", name ++ ".json"]
  configs ++ [options.task.file, options.shared.root?.getD "."]

def findConfig (w : Surroundings) (name : String) : Except Config.SourceFault Config.File :=
  Config.findFile w.files.lossyText? w.files.fromRoot w.files.fromWorking name

-- The configuration. The user's own need not be there, one that is named must.
def config (w : Surroundings) (named? : Option String) : Except Trouble Config :=
  let user := w.userConfig?.toList.filter fun path => (w.files.resolve path).isOk
  let files := (user ++ named?.toList).map w.findConfig
  match Config.load ⟨files, w.environment⟩ with
  | .ok config => .ok config
  | .error fault => .error (.because fault.message fault.cause)

-- What is wrong with the log filter. The one of the environment counts, if it is one.
def logTrouble? (w : Surroundings) (config : Config) : Option Trouble :=
  match (w.valueOf? "RUST_LOG").map LogFilter.ofText with
  | some (.ok _) => none
  | some (.error _) | none =>
    match LogFilter.ofText config.logFilter with
    | .ok _ => none
    | .error fault => some ⟨"Invalid log_filter: " ++ config.logFilter, fault.causes⟩

end Surroundings

structure Opened where
  exchange : Exchange
  path     : String

def during (message : String) (r : Except Failure α) : Except Trouble α :=
  r.mapError fun e => .because message e.message

def duringFile (message : String) (r : Except Files.Fault α) : Except Trouble α :=
  r.mapError fun e => .because message e.message

def openDocument (w : Surroundings) (shared : Shared) (config : Config) (file : String) :
    Except Trouble Opened := do
  let launch ← Launch.choose shared config file
  let rootPath := shared.root?.getD "."
  let root ← duringFile ("Invalid workspace root: " ++ rootPath) (w.files.resolve rootPath)
  let place ← duringFile ("Cannot open " ++ file) (w.files.resolve file)
  let path := Files.absolute place
  let text ← duringFile ("Failed to read " ++ path) (w.files.text place)
  let (started, x) :=
    Exchange.idle.start launch.program launch.args (w.program launch.program launch.args)
  during ("Failed to start " ++ launch.program) started
  let (introduced, x) := x.call "initialize" (.handshake (Files.absolute root))
  let _ ← during "LSP initialize failed" introduced
  let (reply, client) := x.client.perform (.didOpen path text launch.language)
  let _ ← during "Failed to open document" reply
  return ⟨{ x with client }.perform [], path⟩

def check (w : Surroundings) (opened : Opened) (file : String) (filter? : Option Pattern)
    (plain : Bool) : Ended :=
  let session := opened.exchange.client.session
  let all := session.bulletin.diagnostics (Uri.File.ofPath opened.path)
  let shown := all.filter fun d => filter?.all (·.occursIn d.message)
  let colored := w.colored && !plain
  let lines := shown.map fun d =>
    String.ofList (Report.line colored w.width file.toList d) ++ "\n"
  ⟨if shown.any (·.severity = some .error) then 1 else 0, String.join lines, ""⟩

def completionLine (item : Json) : String :=
  let text (key : String) : Option String :=
    match item.get? key with
    | some (.str s) => some s
    | _ => none
  match text "detail" with
  | some detail => (text "label").getD "" ++ "\t" ++ detail ++ "\n"
  | none => (text "label").getD "" ++ "\n"

def complete (opened : Opened) (line character : Nat) : Except Trouble Ended := do
  let (result, _) := opened.exchange.call "completion" (.completion opened.path line character)
  match ← during "Completion request failed" result with
  | .arr items => return ⟨0, String.join (items.map completionLine), ""⟩
  | _ => return ⟨0, "", ""⟩

def readFilter (filter? : Option String) : Except Trouble (Option Pattern) :=
  match filter? with
  | none => .ok none
  | some text =>
    match Pattern.ofText text with
    | .ok p => .ok (some p)
    | .error fault => .error (.alone ("Invalid filter regex: " ++ fault.report text))

def perform (w : Surroundings) (options : Options) : Except Trouble Ended := do
  let config ← w.config options.shared.config?
  match w.logTrouble? config with
  | some trouble => throw trouble
  | none =>
    match options.task with
    | .check file filter? _ plain =>
      let filter? ← readFilter filter?
      let opened ← openDocument w options.shared config file
      return check w opened file filter? plain
    | .complete file line character =>
      let opened ← openDocument w options.shared config file
      complete opened line character

def usage : String :=
  "Usage: conduit [--lsp COMMAND] [--config FILE] [--root DIRECTORY] [--language LANGUAGE] "
    ++ "check FILE [--filter REGEX] [--settle-ms MILLISECONDS] [--nocolor]\n"
    ++ "       conduit ... complete FILE --line LINE --character CHARACTER\n"

def run? (w : Surroundings) (arguments : List String) : Option Ended :=
  (Options.ofArguments? arguments).map fun options =>
    match perform w options with
    | .ok ended => ended
    | .error trouble => ⟨1, "", trouble.text⟩

end LanguageClient.Commands
