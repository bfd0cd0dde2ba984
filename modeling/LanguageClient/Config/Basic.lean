import LanguageClient.Config.Reading
import LanguageClient.Decimal.Duration

namespace LanguageClient

namespace Config

-- How a language server is started. Documents are announced to it under `languageId?`, if that
-- differs from the language that it is known for.
structure Server where
  command     : String
  args        : List String
  languageId? : Option String
  deriving DecidableEq, Repr

namespace Server

def expected : String := "struct ServerConfig"

-- A server of a table. What is wrong counts before what is missing.
def ofEntries (es : Entries) : Except Misfit Server :=
  match Reader.entry? "args" (Reader.list Reader.text) es,
    Reader.entry? "language_id" Reader.optionalText es, Reader.entry? "command" Reader.text es with
  | .error e, _, _ | _, .error e, _ | _, _, .error e => .error e
  | _, _, .ok none => .error (.missing "command")
  | .ok args?, .ok languageId?, .ok (some command) =>
    .ok ⟨command, args?.getD [], languageId?.getD none⟩

def ofItems : List Setting → Except Misfit Server
  | [] => .error (.wrong none none (.tooShort 0 (expected ++ " with 3 elements")))
  | command :: rest =>
    let located (n : Nat) {α : Type} (r : Except Misfit α) : Except Misfit α :=
      match r with
      | .error e => .error (e.within ("[" ++ toString n ++ "]"))
      | .ok a => .ok a
    match located 0 (Reader.text command), rest with
    | .error e, _ => .error e
    | .ok command, [] => .ok ⟨command, [], none⟩
    | .ok command, args :: rest =>
      match located 1 (Reader.list Reader.text args), rest with
      | .error e, _ => .error e
      | .ok args, [] => .ok ⟨command, args, none⟩
      | .ok args, language :: _ =>
        match located 2 (Reader.optionalText language) with
        | .error e => .error e
        | .ok languageId? => .ok ⟨command, args, languageId?⟩

def read : Reader Server
  | .table _ es => ofEntries es
  | .list _ items => ofItems items
  | s => .error (Reader.unexpected expected s)

end Server
end Config

structure Config where
  logFilter   : String
  settleDelay : Nat
  servers     : List (String × Config.Server)
  deriving DecidableEq, Repr

namespace Config

def defaultLogFilter : String := "lsp_conduit=info"

def defaultSettleDelay : Nat := 1500

def default : Config := ⟨defaultLogFilter, defaultSettleDelay, []⟩

def defaults : Setting :=
  .table none
    [("log_filter", .scalar none (.text defaultLogFilter)),
     ("settle_delay_ms", .scalar none (.int defaultSettleDelay))]

def ofEntries (es : Entries) : Except Misfit Config :=
  match Reader.entry? "log_filter" Reader.text es, Reader.entry? "settle_delay_ms" Reader.natural es,
    Reader.entry? "server" (Reader.table Server.read) es with
  | .error e, _, _ | _, .error e, _ | _, _, .error e => .error e
  | .ok logFilter?, .ok settleDelay?, .ok servers? =>
    .ok ⟨logFilter?.getD defaultLogFilter, settleDelay?.getD defaultSettleDelay, servers?.getD []⟩

def server? (config : Config) (language : String) : Option Server :=
  (config.servers.find? (·.1 = language)).map (·.2)

def settleTime (config : Config) : Duration := .ofMillis config.settleDelay

end Config
end LanguageClient
