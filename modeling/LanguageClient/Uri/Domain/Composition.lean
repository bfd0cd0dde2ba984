import LanguageClient.Text.Ranges
import LanguageClient.Uri.Domain.CompositionTable

namespace LanguageClient.Uri.Domain

structure Composed where
  whole : Nat
  base  : Nat
  mark  : Nat
  deriving Repr

def composedOfEntry (cs : List Char) : Composed :=
  let whole := cs.takeWhile (· ≠ '=')
  let parts := cs.drop (whole.length + 1)
  let base := parts.takeWhile (· ≠ '+')
  ⟨Table.hexOf whole, Table.hexOf base, Table.hexOf (parts.drop (base.length + 1))⟩

def compositions : Array Composed :=
  ((Table.entries composedLines).map composedOfEntry).toArray

def classOfEntry (cs : List Char) : (Nat × Nat) × Nat :=
  let span := cs.takeWhile (· ≠ '=')
  (Table.range span, Table.hexOf (cs.drop (span.length + 1)))

def markClasses : Array ((Nat × Nat) × Nat) :=
  ((Table.entries classLines).map classOfEntry).toArray

def markClass (n : Nat) : Nat :=
  if n < 0x300 then 0 else ((Table.find (·.1) markClasses n).map (·.2)).getD 0

-- A syllable of the Korean script is composed by counting, without a table.
def syllable? (a b : Nat) : Option Nat :=
  if 0x1100 ≤ a && a < 0x1113 && 0x1161 ≤ b && b < 0x1176 then
    some (0xAC00 + ((a - 0x1100) * 21 + (b - 0x1161)) * 28)
  else if 0xAC00 ≤ a && a < 0xD7A4 && (a - 0xAC00) % 28 = 0 && 0x11A7 < b && b < 0x11C3 then
    some (a + (b - 0x11A7))
  else none

def compose? (a b : Nat) : Option Nat :=
  (syllable? a b).or ((compositions.find? fun c => c.base = a && c.mark = b).map (·.whole))

def composition? (n : Nat) : Option Composed :=
  Table.find (fun c => (c.whole, c.whole)) compositions n

def letterParts : Nat → Nat → List Nat
  | 0, n => [n]
  | steps + 1, n =>
    match composition? n with
    | none => [n]
    | some c => letterParts steps c.base ++ [c.mark]

def maxMarks : Nat := 4

def decompose (n : Nat) : List Nat :=
  if 0xAC00 ≤ n && n < 0xD7A4 then
    let s := n - 0xAC00
    let tail := if s % 28 = 0 then [] else [0x11A7 + s % 28]
    [0x1100 + s / 588, 0x1161 + s % 588 / 28] ++ tail
  else letterParts maxMarks n

def insertMark (n class₁ : Nat) : List Nat → List Nat
  | [] => [n]
  | m :: rest => if class₁ < markClass m then m :: insertMark n class₁ rest else n :: m :: rest

def sortMarks (ns : List Nat) : List Nat :=
  (ns.foldl (fun out n => if markClass n = 0 then n :: out else insertMark n (markClass n) out)
    []).reverse

-- A letter that may still take up marks, with the marks after it that it did not take, last first.
structure Open where
  before : List Nat
  letter : Option Nat
  marks  : List Nat

namespace Open

def flush (s : Open) : List Nat :=
  s.marks ++ (s.letter.toList ++ s.before)

-- A mark reaches the letter unless one of the same or a higher class stands between them.
def reaches (s : Open) (n : Nat) : Bool :=
  match s.marks with
  | [] => true
  | m :: _ => markClass m < markClass n

def push (s : Open) (n : Nat) : Open :=
  match (if s.reaches n then s.letter else none).bind (compose? · n) with
  | some whole => { s with letter := some whole }
  | none =>
    if markClass n = 0 then ⟨s.flush, some n, []⟩ else { s with marks := n :: s.marks }

end Open

def normal (cs : List Char) : List Char :=
  if cs.all (·.toNat < 0x300) then cs
  else
    let parts := sortMarks (cs.flatMap fun c => decompose c.toNat)
    ((parts.foldl Open.push ⟨[], none, []⟩).flush.reverse).map Char.ofNat

end LanguageClient.Uri.Domain
