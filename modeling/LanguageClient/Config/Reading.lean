import LanguageClient.Config.Setting
import LanguageClient.Text.Case
import LanguageClient.Text.Count

namespace LanguageClient.Config

inductive Complaint
  | wrongType (found expected : String)
  | tooShort (count : Nat) (expected : String)
  deriving DecidableEq, Repr

def Complaint.message : Complaint → String
  | .wrongType found expected => "invalid type: " ++ found ++ ", expected " ++ expected
  | .tooShort count expected => "invalid length " ++ toString count ++ ", expected " ++ expected

inductive Misfit
  | missing (place : String)
  | wrong (place? : Option String) (source? : Option String) (complaint : Complaint)
  deriving DecidableEq, Repr

namespace Misfit

def join (outer inner : String) : String :=
  if inner.startsWith "[" then outer ++ inner else outer ++ "." ++ inner

def within (step : String) : Misfit → Misfit
  | .missing place => .missing (join step place)
  | .wrong none source? complaint => .wrong (some step) source? complaint
  | .wrong (some place) source? complaint => .wrong (some (join step place)) source? complaint

def message : Misfit → String
  | .missing place => "missing configuration field " ++ Text.quoted place
  | .wrong place? source? complaint =>
    let place := match place? with
      | some place => " for key `" ++ place ++ "`"
      | none => ""
    let source := match source? with
      | some source => " in " ++ source
      | none => ""
    complaint.message ++ place ++ source

end Misfit

abbrev Reader (α : Type) := Setting → Except Misfit α

namespace Reader

-- A scalar that cannot be converted is reported with its source, a value of another shape without.
def unconverted (expected : String) (s : Setting) : Misfit :=
  .wrong none s.source? (.wrongType s.described expected)

def unexpected (expected : String) (s : Setting) : Misfit :=
  .wrong none none (.wrongType s.described expected)

def text : Reader String
  | .scalar _ (.text s) => .ok s
  | .scalar _ (.bool b) => .ok (toString b)
  | .scalar _ (.int n) => .ok (toString n)
  | .scalar _ (.float x) => .ok x.plainText
  | s => .error (unconverted "a string" s)

def naturalOfText? (s : String) : Option Nat :=
  let word := String.ofList (s.toList.map Text.lowerAscii)
  if word = "true" || word = "on" || word = "yes" then some 1
  else if word = "false" || word = "off" || word = "no" then some 0
  else (Text.readCount UInt64.size s.toList).toOption

def natural (s : Setting) : Except Misfit Nat :=
  let read? : Option Nat := match s with
    | .scalar _ (.text t) => naturalOfText? t
    | .scalar _ (.bool b) => some b.toNat
    | .scalar _ (.int n) => if 0 ≤ n then some n.toNat else none
    | .scalar _ (.float x) => some x.roundedNat
    | _ => none
  match read? with
  | some n => .ok n
  | none => .error (unconverted "an unsigned 64 bit or less integer" s)

def optionalText : Reader (Option String)
  | .scalar _ .nothing => .ok none
  | s => (text s).map some

def itemsFrom (read : Reader α) (n : Nat) : List Setting → Except Misfit (List α)
  | [] => .ok []
  | s :: rest =>
    match read s with
    | .error e => .error (e.within ("[" ++ toString n ++ "]"))
    | .ok a => (itemsFrom read (n + 1) rest).map (a :: ·)

def list (read : Reader α) : Reader (List α)
  | .list _ items => itemsFrom read 0 items
  | s => .error (unexpected "a sequence" s)

def entriesOf (read : Reader α) : Entries → Except Misfit (List (String × α))
  | [] => .ok []
  | (key, s) :: rest =>
    match read s with
    | .error e => .error (e.within key)
    | .ok a => (entriesOf read rest).map ((key, a) :: ·)

def table (read : Reader α) : Reader (List (String × α))
  | .table _ es => entriesOf read es
  | s => .error (unexpected "a map" s)

def entry? (key : String) (read : Reader α) (es : Entries) : Except Misfit (Option α) :=
  match Entries.get? key es with
  | none => .ok none
  | some s =>
    match read s with
    | .error e => .error (e.within key)
    | .ok a => .ok (some a)

end Reader
end LanguageClient.Config
