import LanguageClient.Config.Basic
import LanguageClient.Config.Place
import LanguageClient.Json.Parser
import LanguageClient.Text.Lines
import LanguageClient.Toml.Fault

namespace LanguageClient.Config

inductive Notation
  | toml
  | json
  deriving DecidableEq, Repr

inductive SourceFault
  | notFound (name : String)
  | unknownNotation (path : String)
  | badToml (report source : String)
  | badJson (fault : Json.Fault) (source : String)
  | noTable (found : Setting) (source : String)

def SourceFault.message : SourceFault → String
  | .notFound name => "configuration file \"" ++ name ++ "\" not found"
  | .unknownNotation path =>
    "configuration file \"" ++ path ++ "\" is not of a registered file format"
  | .badToml report source => report ++ " in " ++ source
  | .badJson fault source => fault.message ++ " in " ++ source
  | .noTable found source =>
    (Misfit.wrong none (some source) (.wrongType found.described "a map")).message ++ " in " ++ source

inductive Fault
  | source (why : SourceFault)
  | reading (why : Misfit)

namespace Fault

def message : Fault → String
  | .source _ => "Failed to build configuration"
  | .reading _ => "Failed to deserialize configuration"

def cause : Fault → String
  | .source why => why.message
  | .reading why => why.message

end Fault

structure File where
  source : String
  kind   : Notation
  text   : String

namespace File

def body (file : File) : String :=
  match file.text.toList with
  | '\uFEFF' :: cs => String.ofList cs
  | _ => file.text

def entries (file : File) : Except SourceFault Entries :=
  match file.kind with
  | .toml =>
    match Toml.read file.body with
    | .ok es => .ok (Setting.entriesOfToml file.source es)
    | .error (d, rest) =>
      .error (.badToml (Toml.report file.body (Toml.find d rest)) file.source)
  | .json =>
    match Json.parse file.body with
    | .ok (.obj members) => .ok (Setting.entriesOfJson file.source members)
    | .ok j => .error (.noTable (Setting.ofJson file.source j) file.source)
    | .error fault => .error (.badJson fault file.source)

end File

def ending (name : String) : List Char :=
  match (Text.split '.' ((Text.split '/' name.toList).getLast?.getD [])).reverse with
  | last :: before :: more => if before = [] && more = [] then [] else last
  | _ => []

def notation? (name : String) : Option Notation :=
  match String.ofList (ending name) with
  | "toml" => some .toml
  | "json" => some .json
  | _ => none

-- Finds a file by its name; where there is none of that name, the endings of the notations are
-- tried. `read` gives the text of a file, and `whole` and `brief` name it in faults.
def findFile (read : String → Option String) (whole brief : String → String) (name : String) :
    Except SourceFault File :=
  match read name with
  | some text =>
    match notation? name with
    | some kind => .ok ⟨brief name, kind, text⟩
    | none => .error (.unknownNotation (whole name))
  | none =>
    match read (name ++ ".toml"), read (name ++ ".json") with
    | some text, _ => .ok ⟨brief (name ++ ".toml"), .toml, text⟩
    | none, some text => .ok ⟨brief (name ++ ".json"), .json, text⟩
    | none, none => .error (.notFound name)

def environmentSource : String := "the environment"

def environmentPrefix : List Char := "conduit_".toList

-- The setting of a variable of the environment. Its name counts in lower case and begins with the
-- name of the program; dots in it separate keys.
def ofNamed? (named : String × String) : Option (String × Setting) :=
  let name := named.1.toList.map Text.lowerToAscii
  if environmentPrefix.isPrefixOf name then
    let key := String.ofList (name.drop environmentPrefix.length)
    some (key, .scalar environmentSource (.text named.2))
  else none

-- The settings of the environment; of variables with the same key the last counts.
def environmentEntries (assignments : List (String × String)) : Entries :=
  (assignments.filterMap ofNamed?).foldl (fun es (key, s) => es.set key s) []

structure Sources where
  files       : List (Except SourceFault File)
  environment : List (String × String)

def overlayFiles (base : Setting) : List (Except SourceFault File) → Except SourceFault Setting
  | [] => .ok base
  | .error fault :: _ => .error fault
  | .ok file :: rest =>
    match file.entries with
    | .error fault => .error fault
    | .ok es => overlayFiles (Setting.overlay es base) rest

-- The user's file, the file that is named and the environment are put over the defaults, in this
-- order.
def load (sources : Sources) : Except Fault Config :=
  match overlayFiles defaults sources.files with
  | .error fault => .error (.source fault)
  | .ok settings =>
    let settings := Setting.overlay (environmentEntries sources.environment) settings
    match ofEntries settings.entries with
    | .error misfit => .error (.reading misfit)
    | .ok config => .ok config

end LanguageClient.Config
