import LanguageClient.Text.Lines

namespace LanguageClient

structure Trouble where
  message : String
  causes  : List String
  deriving DecidableEq, Repr

namespace Trouble

def alone (message : String) : Trouble := ⟨message, []⟩

def because (message cause : String) : Trouble := ⟨message, [cause]⟩

def hang (first later text : String) : String :=
  first ++ ("\n" ++ later).intercalate ((Text.split '\n' text.toList).map String.ofList)

def causeLines : List String → List String
  | [cause] => [hang "    " "    " cause]
  | causes => causes.zipIdx.map fun (cause, i) =>
    let number := toString i
    hang (String.ofList (List.replicate (5 - number.length) ' ') ++ number ++ ": ") "       " cause

def text (t : Trouble) : String :=
  let causes := if t.causes = [] then ""
    else "\n\nCaused by:\n" ++ "\n".intercalate (causeLines t.causes)
  "Error: " ++ t.message ++ causes ++ "\n"

end Trouble
end LanguageClient
