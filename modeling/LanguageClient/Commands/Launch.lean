import LanguageClient.Commands.Options
import LanguageClient.Config.Basic
import LanguageClient.Protocol.Language
import LanguageClient.Text.Blank
import LanguageClient.Trouble

namespace LanguageClient.Commands

structure Launch where
  program  : String
  args     : List String
  language : String
  deriving DecidableEq, Repr

-- A command line that is given wins over the configuration. The language is the one that is given, or
-- the one of the file; a configured server may know it by another name.
def Launch.choose (shared : Shared) (config : Config) (file : String) : Except Trouble Launch :=
  let language := shared.language?.getD (Protocol.languageFor file)
  match shared.server? with
  | some line =>
    match (Text.words line.toList).map String.ofList with
    | [] => .error (.alone "--lsp command cannot be empty")
    | program :: args => .ok ⟨program, args, language⟩
  | none =>
    match config.server? language with
    | some server =>
      .ok ⟨server.command, server.args, server.languageId?.getD language⟩
    | none =>
      .error <| .alone <| "No language server configured for '" ++ language
        ++ "'. Pass --lsp or add [server." ++ language ++ "] to the config"

end LanguageClient.Commands
