namespace LanguageClient

namespace Table

def digitOf (c : Char) : Nat :=
  let n := c.toNat
  if n ≤ 57 then n - 48 else n - 55

def hexOf (cs : List Char) : Nat :=
  cs.foldl (fun n c => n * 16 + digitOf c) 0

def entries (lines : List String) : List (List Char) :=
  lines.flatMap fun s => (s.toList.splitOnP (· = ' ')).filter (· ≠ [])

-- Tables are written as ranges `41..5A` and single code points `AA`, with blanks between them.
def range (cs : List Char) : Nat × Nat :=
  let first := cs.takeWhile (· ≠ '.')
  match cs.dropWhile (· ≠ '.') with
  | [] => (hexOf first, hexOf first)
  | rest => (hexOf first, hexOf (rest.dropWhile (· = '.')))

def search (bounds : α → Nat × Nat) (t : Array α) (n low high : Nat) : Option α :=
  if low < high then
    let middle := (low + high) / 2
    match t[middle]? with
    | none => none
    | some entry =>
      if n < (bounds entry).1 then search bounds t n low middle
      else if n > (bounds entry).2 then search bounds t n (middle + 1) high
      else some entry
  else none
termination_by high - low

def find (bounds : α → Nat × Nat) (t : Array α) (n : Nat) : Option α :=
  search bounds t n 0 t.size

end Table

abbrev Ranges := Array (Nat × Nat)

namespace Ranges

def ofLines (lines : List String) : Ranges :=
  ((Table.entries lines).map Table.range).toArray

def contains (t : Ranges) (n : Nat) : Bool :=
  (Table.find id t n).isSome

end Ranges
end LanguageClient
