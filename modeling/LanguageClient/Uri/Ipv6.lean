import LanguageClient.Text.Lines
import LanguageClient.Uri.Percent

namespace LanguageClient.Uri.Ipv6

def piece? (cs : List Char) : Option Nat :=
  if cs = [] || cs.length > 4 then none
  else cs.foldlM (fun n c => (hexValue? c).map (n * 16 + ·)) 0

def byte? (cs : List Char) : Option Nat :=
  if cs = [] || cs.length > 3 || !cs.all Char.isDigit then none
  else if cs.length > 1 && cs.head? = some '0' then none
  else
    let n := cs.foldl (fun n c => n * 10 + (c.toNat - 48)) 0
    if n < 256 then some n else none

def bytes? (cs : List Char) : Option (List Nat) := do
  match ← (Text.split '.' cs).mapM byte? with
  | [a, b, c, d] => return [a * 256 + b, c * 256 + d]
  | _ => none

-- The pieces of a part of an address; only its last piece may be four bytes, if the address ends there.
def pieces (ends : Bool) : List (List Char) → Option (List Nat)
  | [] => some []
  | [last] => if ends && last.contains '.' then bytes? last else (piece? last).map ([·])
  | p :: ps => do return (← piece? p) :: (← pieces ends ps)

def side (ends : Bool) (cs : List Char) : Option (List Nat) :=
  if cs = [] then some [] else pieces ends (Text.split ':' cs)

def cutGap? : List Char → Option (List Char × List Char)
  | ':' :: ':' :: rest => some ([], rest)
  | c :: rest => (cutGap? rest).map fun (a, b) => (c :: a, b)
  | [] => none

def parse? (cs : List Char) : Option (List Nat) := do
  match cutGap? cs with
  | none =>
    let ps ← side true cs
    if ps.length = 8 then return ps else none
  | some (left, right) =>
    let before ← side false left
    let after ← side true right
    let count := before.length + after.length
    if count ≤ 7 then return before ++ List.replicate (8 - count) 0 ++ after else none

def zeros (ps : List Nat) : Nat := (ps.takeWhile (· = 0)).length

def longestGap (ps : List Nat) : Option (Nat × Nat) :=
  let runs := (List.range ps.length).map fun i => (i, zeros (ps.drop i))
  runs.foldl (fun best (i, n) =>
    if n ≥ 2 && n > (best.map (·.2)).getD 0 then some (i, n) else best) none

def join (ps : List Nat) : List Char :=
  [':'].intercalate (ps.map (Nat.toDigits 16))

def text (ps : List Nat) : List Char :=
  match longestGap ps with
  | none => join ps
  | some (i, n) => join (ps.take i) ++ [':', ':'] ++ join (ps.drop (i + n))

end LanguageClient.Uri.Ipv6
