import LanguageClient.CommandLine
import LanguageClient.Text.Count

namespace LanguageClient.MockServer
open CommandLine

-- A delay is in milliseconds. The lists are methods that are never answered, and methods that are
-- answered with an error.
structure Options where
  diagnosticsDelay : Nat
  noDiagnostics    : Bool
  hangOn           : List String
  failOn           : List String
  itemsWrapper     : Bool
  logNoise         : Bool
  serverRequest    : Bool
  deriving DecidableEq, Repr

namespace Options

def default : Options := ⟨0, false, [], [], false, false, false⟩

def choices : List Choice :=
  [valued "diagnostics-delay", switch "no-diagnostics", repeated "hang-on", repeated "fail-on",
    switch "items-wrapper", switch "log-noise", switch "server-request"]

def ofArguments? (arguments : List String) : Option Options := do
  let (given, _) ← sort? choices false .empty arguments
  if given.operands ≠ [] then none
  let delay ← (Text.readCount UInt64.size ((given.value? "diagnostics-delay").getD "0").toList).toOption
  return {
    diagnosticsDelay := delay
    noDiagnostics    := given.has "no-diagnostics"
    hangOn           := given.values "hang-on"
    failOn           := given.values "fail-on"
    itemsWrapper     := given.has "items-wrapper"
    logNoise         := given.has "log-noise"
    serverRequest    := given.has "server-request" }

end Options
end LanguageClient.MockServer
