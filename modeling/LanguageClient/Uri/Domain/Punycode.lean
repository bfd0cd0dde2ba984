namespace LanguageClient.Uri.Domain.Punycode

def digit (n : Nat) : Char :=
  if n < 26 then Char.ofNat (97 + n) else Char.ofNat (22 + n)

def digitValue? (c : Char) : Option Nat :=
  let n := c.toNat
  if 97 ≤ n && n ≤ 122 then some (n - 97)
  else if 65 ≤ n && n ≤ 90 then some (n - 65)
  else if 48 ≤ n && n ≤ 57 then some (n - 22)
  else none

-- The digit at place `k` is the last one of a number if it is below this threshold.
def threshold (k bias : Nat) : Nat :=
  if k ≤ bias + 1 then 1 else if k ≥ bias + 26 then 26 else k - bias

-- Divides until the rest is small; gives the rest and 36 for each division.
def shrink (delta k : Nat) : Nat × Nat :=
  if delta > 455 then shrink (delta / 35) (k + 36) else (delta, k)
termination_by delta
decreasing_by omega

def adapt (delta count : Nat) (first : Bool) : Nat :=
  let halved := if first then delta / 700 else delta / 2
  let (rest, k) := shrink (halved + halved / count) 0
  k + 36 * rest / (rest + 38)

theorem threshold_bounds (k bias : Nat) : 1 ≤ threshold k bias ∧ threshold k bias ≤ 26 := by
  simp only [threshold]
  split
  · omega
  · split <;> omega

def number (n k bias : Nat) : List Char :=
  let t := threshold k bias
  if n < t then [digit n]
  else digit (t + (n - t) % (36 - t)) :: number ((n - t) / (36 - t)) (k + 36) bias
termination_by n
decreasing_by
  have := threshold_bounds k bias
  exact Nat.lt_of_le_of_lt (Nat.div_le_self _ _) (by omega)

structure Encoder where
  delta : Nat
  bias  : Nat
  count : Nat
  first : Bool
  out   : List Char

def Encoder.place (e : Encoder) (m c : Nat) : Encoder :=
  if c < m then { e with delta := e.delta + 1 }
  else if c = m then
    { delta := 0
      bias := adapt e.delta (e.count + 1) e.first
      count := e.count + 1
      first := false
      out := e.out ++ number e.delta 36 e.bias }
  else e

-- Inserts the characters of each code point `m` in turn; all below `next` are there already.
def insertAll (label : List Nat) (e : Encoder) (next : Nat) : List Nat → Encoder
  | [] => e
  | m :: rest =>
    let e := { e with delta := e.delta + (m - next) * (e.count + 1) }
    let e := label.foldl (·.place m) e
    insertAll label { e with delta := e.delta + 1 } (m + 1) rest

def encode (label : List Char) : List Char :=
  let codes := label.map Char.toNat
  let ascii := label.filter (·.toNat < 128)
  let further := ((codes.filter (· ≥ 128)).eraseDups).mergeSort (· ≤ ·)
  let e : Encoder := ⟨0, 72, ascii.length, true, if ascii = [] then [] else ascii ++ ['-']⟩
  (insertAll codes e 128 further).out

-- What has been read: the label so far, the last code point and place, and the number that is being
-- read with the weight of its next digit.
structure Decoder where
  label  : List Nat
  code   : Nat
  place  : Nat
  bias   : Nat
  sum    : Nat
  weight : Nat
  k      : Nat

def Decoder.step (d : Decoder) (c : Char) : Option Decoder := do
  let v ← digitValue? c
  let sum := d.sum + v * d.weight
  let t := threshold d.k d.bias
  if v ≥ t then return { d with sum := sum, weight := d.weight * (36 - t), k := d.k + 36 }
  let count := d.label.length + 1
  let total := d.place + sum
  let code := d.code + total / count
  let place := total % count
  if code > 0x10FFFF || (0xD800 ≤ code && code ≤ 0xDFFF) then none
  return { label := d.label.take place ++ code :: d.label.drop place
           code := code
           place := place + 1
           bias := adapt sum count (d.place = 0)
           sum := 0
           weight := 1
           k := 36 }

def cutLastHyphen (cs : List Char) : List Char × List Char :=
  let tail := (cs.reverse.takeWhile (· ≠ '-')).reverse
  (cs.take (cs.length - tail.length - 1), tail)

def decode? (cs : List Char) : Option (List Char) := do
  let (ascii, tail) := cutLastHyphen cs
  let start : Decoder := ⟨ascii.map Char.toNat, 128, 0, 72, 0, 1, 36⟩
  let d ← tail.foldlM Decoder.step start
  if d.k = 36 then return d.label.map Char.ofNat else none

end LanguageClient.Uri.Domain.Punycode
