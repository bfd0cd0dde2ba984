import LanguageClient.Uri.Domain.MappingTable

namespace LanguageClient.Uri.Domain

-- Code points from `first` to `last` that are replaced. Each has the same target, or the first code
-- point of the target is counted up along.
structure Replacement where
  first  : Nat
  last   : Nat
  step   : Nat
  counts : Bool
  target : List Nat
  deriving Repr

namespace Replacement

-- Reads an entry such as `B9=31`, `41..5A>61` or `100..12E/2>101`.
def ofEntry (cs : List Char) : Replacement :=
  let left := cs.takeWhile fun c => c ≠ '=' && c ≠ '>'
  let right := cs.drop (left.length + 1)
  let span := Table.range (left.takeWhile (· ≠ '/'))
  { first := span.1
    last := span.2
    step := if left.contains '/' then 2 else 1
    counts := cs.contains '>'
    target := (right.splitOnP (· = '+')).map Table.hexOf }

def apply (r : Replacement) (n : Nat) : Option (List Nat) :=
  if (n - r.first) % r.step ≠ 0 then none
  else if r.counts then some (r.target.map (· + (n - r.first)))
  else some r.target

end Replacement

def replacements : Array Replacement :=
  ((Table.entries replacedLines).map Replacement.ofEntry).toArray

def mapped (c : Char) : Option (List Char) :=
  let n := c.toNat
  if n < 128 then some [if 65 ≤ n && n ≤ 90 then Char.ofNat (n + 32) else c]
  else if disallowed.contains n then none
  else if ignored.contains n then some []
  else
    match (Table.find (fun r => (r.first, r.last)) replacements n).bind (·.apply n) with
    | some target => some (target.map Char.ofNat)
    | none => some [c]

end LanguageClient.Uri.Domain
