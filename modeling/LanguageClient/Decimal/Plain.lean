import LanguageClient.Decimal.Shortest

namespace LanguageClient.Binary64

def isFinite (x : Binary64) : Bool := x.bits.toNat / Nat.pow 2 52 % 2048 ≠ 2047

def plainDigits (p : Parts) : List Char :=
  if p.mantissa = 0 then ['0']
  else
    let (d, k) := p.shortest
    let digits := (toString d).toList
    let point : Int := digits.length + k
    let zeros (n : Int) := List.replicate n.toNat '0'
    if 0 ≤ k then digits ++ zeros k
    else if 0 < point then digits.take point.toNat ++ '.' :: digits.drop point.toNat
    else '0' :: '.' :: zeros (-point) ++ digits

def plainText (x : Binary64) : String :=
  let sign := if x.isNegative then "-" else ""
  if x.isFinite then sign ++ String.ofList (plainDigits x.parts)
  else if x.bits.toNat % Nat.pow 2 52 = 0 then sign ++ "inf"
  else "NaN"

def roundedNat (x : Binary64) : Nat :=
  let p := x.parts
  if x.isNegative || (!x.isFinite && x.bits.toNat % Nat.pow 2 52 ≠ 0) then 0
  else
    let doubled := if 0 ≤ p.exponent then 2 * p.mantissa * Nat.pow 2 p.exponent.toNat
      else 2 * p.mantissa / Nat.pow 2 (-p.exponent).toNat
    min ((doubled + 1) / 2) (UInt64.size - 1)

end LanguageClient.Binary64
