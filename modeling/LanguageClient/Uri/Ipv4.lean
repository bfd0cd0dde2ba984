import LanguageClient.Text.Lines
import LanguageClient.Uri.Percent

namespace LanguageClient.Uri.Ipv4

def part? (cs : List Char) : Option Nat :=
  match cs with
  | [] => none
  | '0' :: 'x' :: digits | '0' :: 'X' :: digits => number 16 digits
  | '0' :: d :: digits => number 8 (d :: digits)
  | digits => number 10 digits
where
  number (base : Nat) (digits : List Char) : Option Nat :=
    digits.foldlM (fun n c => (hexValue? c).bind fun d =>
      if d < base then some (n * base + d) else none) 0

def parts (name : List Char) : List (List Char) :=
  match (Text.split '.' name).reverse with
  | [] :: rest => rest.reverse
  | all => all.reverse

def isAddress (name : List Char) : Bool :=
  match (parts name).getLast? with
  | none => false
  | some last => (last ≠ [] && last.all Char.isDigit) || (part? last).isSome

-- The value of the parts; `rest` bytes are left for the first of them.
def valueOf (rest : Nat) : List Nat → Option Nat
  | [] => none
  | [n] => if n < Nat.pow 256 rest then some n else none
  | n :: ns =>
    if n < 256 then (valueOf (rest - 1) ns).map (n * Nat.pow 256 (rest - 1) + ·) else none

def parse? (name : List Char) : Option Nat := do
  let parts := parts name
  if parts.length > 4 then none
  valueOf 4 (← parts.mapM part?)

def text (n : Nat) : List Char :=
  let byte (k : Nat) : List Char := Nat.toDigits 10 (n / Nat.pow 256 k % 256)
  ['.'].intercalate [byte 3, byte 2, byte 1, byte 0]

end LanguageClient.Uri.Ipv4
