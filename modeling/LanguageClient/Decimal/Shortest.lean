namespace LanguageClient

-- A double by its bits, so that two of them are equal iff they are the same double.
structure Binary64 where
  bits : UInt64
  deriving DecidableEq, Repr

namespace Binary64

def ofFloat (x : Float) : Binary64 := ⟨x.toBits⟩

def toFloat (x : Binary64) : Float := Float.ofBits x.bits

def isNegative (x : Binary64) : Bool := x.bits ≥ 0x8000000000000000

-- The absolute value of a finite double is `mantissa * 2 ^ exponent`.
structure Parts where
  mantissa : Nat
  exponent : Int
  -- Whether the next smaller double is only half as far away as the next larger one.
  halfBelow : Bool
  deriving DecidableEq, Repr

def parts (x : Binary64) : Parts :=
  let fraction : Nat := x.bits.toNat % Nat.pow 2 52
  let biased : Nat := x.bits.toNat / Nat.pow 2 52 % 2048
  if biased = 0 then ⟨fraction, -1074, false⟩
  else ⟨Nat.pow 2 52 + fraction, (biased : Int) - 1075, fraction = 0 && biased ≠ 1⟩

-- `10 ^ k` against `2 ^ q`, as a pair of natural numbers of the same ratio.
def scale (q k : Int) : Nat × Nat :=
  (Nat.pow 2 q.toNat * Nat.pow 10 (-k).toNat, Nat.pow 10 k.toNat * Nat.pow 2 (-q).toNat)

-- The multiple of `10 ^ k` that reads back as the double and is nearest to it, if there is one.
-- The numbers that read back lie within half the distance to the neighbours, in quarters of the last
-- place; the two ends count iff the mantissa is even.
def Parts.onGrid (p : Parts) (k : Int) : Option Nat :=
  let (unit, step) := scale (p.exponent - 2) k
  let value := 4 * p.mantissa * unit
  let low := value - (if p.halfBelow then unit else 2 * unit)
  let high := value + 2 * unit
  let reads (d : Nat) : Bool :=
    if p.mantissa % 2 = 0 then low ≤ d * step && d * step ≤ high
    else low < d * step && d * step < high
  let d := value / step
  let above := (d + 1) * step - value
  let below := value - d * step
  match reads d && d ≠ 0, reads (d + 1) with
  | true, true =>
    if below < above || (below = above && d % 2 = 0) then some d else some (d + 1)
  | true, false => some d
  | false, true => some (d + 1)
  | false, false => none

def Parts.search (p : Parts) : Nat → Int → Nat × Int
  | 0, k => (0, k)
  | n + 1, k =>
    match p.onGrid k with
    | some d => (d, k)
    | none => p.search n (k - 1)

-- The shortest digits of a double that is neither zero nor infinite: `(d, k)` for `d * 10 ^ k`. No
-- multiple of the power of ten where the search starts reads back, and seventeen digits always do.
def Parts.shortest (p : Parts) : Nat × Int :=
  p.search 24 (((p.mantissa.log2 : Int) + p.exponent + 2) * 30103 / 100000 + 2)

-- The text of a double: the shortest digits, positional from `1e-5` to below `1e16` and with an
-- exponent of explicit sign elsewhere. A positional text always has a fraction.
def text (x : Binary64) : String :=
  let sign := if x.isNegative then "-" else ""
  let p := x.parts
  if p.mantissa = 0 then sign ++ "0.0"
  else
    let (d, k) := p.shortest
    let digits := (toString d).toList
    let point : Int := digits.length + k
    let zeros (n : Int) := List.replicate n.toNat '0'
    let body : List Char :=
      if 0 ≤ k && point ≤ 16 then digits ++ zeros k ++ ['.', '0']
      else if 0 < point && point ≤ 16 then
        digits.take point.toNat ++ '.' :: digits.drop point.toNat
      else if -5 < point && point ≤ 0 then '0' :: '.' :: zeros (-point) ++ digits
      else
        let fraction := if digits.length = 1 then [] else '.' :: digits.drop 1
        let exponent := point - 1
        let shown := (if exponent < 0 then "e-" else "e+") ++ toString exponent.natAbs
        digits.take 1 ++ fraction ++ shown.toList
    sign ++ String.ofList body

end Binary64
end LanguageClient
