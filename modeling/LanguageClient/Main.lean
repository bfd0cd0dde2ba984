import LanguageClient.Commands.Run

namespace LanguageClient

namespace Commands

def processVariables : IO (List (String × String)) := do
  let bytes ← try IO.FS.readBinFile "/proc/self/environ" catch _ => pure .empty
  let entries := (Utf8.lossy bytes.toList).splitOn "\x00"
  return entries.filterMap fun entry =>
    (Text.cut? '=' entry.toList).map fun (name, value) =>
      (String.ofList name, String.ofList value)

def look (files : Files) (path : String) : IO Files := do
  let place := Files.placeOf files.working path
  try
    let found ← IO.FS.realPath path
    if ← found.isDir then return files.addDirectory place
    else return files.add place (← IO.FS.readBinFile found).toList
  catch _ => return files

def surroundings (options : Options) : IO Surroundings := do
  let working := Files.placeOf [] (← IO.currentDir).toString
  let w : Surroundings :=
    { files       := (Files.mk working [] []).addDirectory working
      environment := ← processVariables
      programs    := [("mockls", .mockServer)]
      colored     := ← (← IO.getStdout).isTty
      width       := 80 }
  return { w with files := ← (w.paths options).foldlM look w.files }

def start (arguments : List String) : IO UInt32 := do
  match Options.ofArguments? arguments with
  | none =>
    IO.eprint usage
    return 2
  | some options =>
    match run? (← surroundings options) arguments with
    | none => return 2
    | some ended =>
      IO.print ended.out
      IO.eprint ended.err
      return UInt32.ofNat ended.code

end Commands

namespace MockServer

def write (outputs : List Output) : IO Unit := do
  let out ← IO.getStdout
  for o in outputs do
    out.putStr o.onOut
    out.flush
    IO.eprint o.onErr

partial def listen (m : MockServer) : IO Unit := do
  let input ← (← IO.getStdin).read 4096
  if input.isEmpty then return
  let (m, outputs) := m.feed input.toList
  write outputs
  if m.exited then return
  listen m

def start (arguments : List String) : IO UInt32 := do
  match Options.ofArguments? arguments with
  | none =>
    IO.eprintln "Usage: mockls [OPTIONS]"
    return 2
  | some options =>
    listen (new options)
    return 0

end MockServer
end LanguageClient

open LanguageClient in
def main (arguments : List String) : IO UInt32 := do
  if (← IO.appPath).fileName = some "mockls" then MockServer.start arguments
  else Commands.start arguments
