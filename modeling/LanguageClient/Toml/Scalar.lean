import LanguageClient.Json.Parser
import LanguageClient.Toml.Basic

namespace LanguageClient.Toml

def digits? (isDigit : Char → Bool) : List Char → Option (List Char)
  | [] => none
  | [c] => if isDigit c then some [c] else none
  | c :: '_' :: rest => if isDigit c then (digits? isDigit rest).map (c :: ·) else none
  | c :: rest => if isDigit c then (digits? isDigit rest).map (c :: ·) else none

def numeral (base : Nat) (cs : List Char) : Nat :=
  cs.foldl (fun n c => n * base + (Json.hexValue? c).getD 0) 0

def isDigitOf (base : Nat) (c : Char) : Bool := (Json.hexValue? c).any (· < base)

def decimal? (cs : List Char) : Option (List Char) :=
  (digits? Char.isDigit cs).bind fun ds => if ds.length > 1 && ds.head? = some '0' then none else some ds

def signed (cs : List Char) : Bool × List Char :=
  match cs with
  | '-' :: rest => (true, rest)
  | '+' :: rest => (false, rest)
  | _ => (false, cs)

def int? (cs : List Char) : Option Int :=
  let value : Option Int := match cs with
    | '0' :: 'x' :: rest => (digits? (isDigitOf 16) rest).map fun ds => numeral 16 ds
    | '0' :: 'o' :: rest => (digits? (isDigitOf 8) rest).map fun ds => numeral 8 ds
    | '0' :: 'b' :: rest => (digits? (isDigitOf 2) rest).map fun ds => numeral 2 ds
    | _ =>
      let (negative, rest) := signed cs
      (decimal? rest).map fun ds => if negative then -(numeral 10 ds : Int) else numeral 10 ds
  value.bind fun n => if -9223372036854775808 ≤ n && n ≤ 9223372036854775807 then some n else none

def cutAt (p : Char → Bool) (cs : List Char) : List Char × Option (List Char) :=
  match cs.dropWhile (!p ·) with
  | [] => (cs, none)
  | _ :: rest => (cs.takeWhile (!p ·), some rest)

def double (negative : Bool) (significand : Nat) (exponent : Int) : Binary64 :=
  let magnitude := if exponent < 0 then Float.ofScientific significand true exponent.natAbs
    else Float.ofScientific significand false exponent.natAbs
  .ofFloat (if negative then -magnitude else magnitude)

def decimalFloat? (negative : Bool) (cs : List Char) : Option Binary64 := do
  let (mantissa, power?) := cutAt (fun c => c = 'e' || c = 'E') cs
  let (whole, fraction?) := cutAt (· = '.') mantissa
  if power?.isNone && fraction?.isNone then none
  let whole ← decimal? whole
  let fraction ← match fraction? with
    | some f => digits? Char.isDigit f
    | none => some []
  let power : Int ← match power? with
    | some p =>
      let (down, p) := signed p
      (digits? Char.isDigit p).map fun ds => if down then -(numeral 10 ds : Int) else numeral 10 ds
    | none => some 0
  return double negative (numeral 10 (whole ++ fraction)) (power - fraction.length)

def float? (cs : List Char) : Option Binary64 :=
  let (negative, rest) := signed cs
  if rest = ['i', 'n', 'f'] then some (.ofFloat (if negative then -(1.0 / 0.0) else 1.0 / 0.0))
  else if rest = ['n', 'a', 'n'] then some (.ofFloat (0.0 / 0.0))
  else decimalFloat? negative rest

def field? (width low high : Nat) (cs : List Char) : Option (List Char) :=
  if cs.length = width && cs.all Char.isDigit && low ≤ numeral 10 cs && numeral 10 cs ≤ high then
    some cs
  else none

def daysIn (year month : Nat) : Nat :=
  if month = 2 then if year % 4 = 0 && (year % 100 ≠ 0 || year % 400 = 0) then 29 else 28
  else if month = 4 || month = 6 || month = 9 || month = 11 then 30
  else 31

def date? (cs : List Char) : Option (List Char) := do
  if cs.length ≠ 10 || cs[4]? ≠ some '-' || cs[7]? ≠ some '-' then none
  let year ← field? 4 0 9999 (cs.take 4)
  let month ← field? 2 1 12 ((cs.drop 5).take 2)
  let _ ← field? 2 1 (daysIn (numeral 10 year) (numeral 10 month)) (cs.drop 8)
  return cs

def fractionOfSecond (cs : List Char) : List Char :=
  match ((cs.take 9).reverse.dropWhile (· = '0')).reverse with
  | [] => ['0']
  | ds => ds

def clock? (cs : List Char) : Option (List Char) := do
  if cs[2]? ≠ some ':' then none
  let _ ← field? 2 0 23 (cs.take 2)
  let _ ← field? 2 0 59 ((cs.drop 3).take 2)
  match cs.drop 5 with
  | [] => return cs
  | ':' :: rest =>
    let _ ← field? 2 0 60 (rest.take 2)
    match rest.drop 2 with
    | [] => return cs
    | '.' :: fraction =>
      if fraction = [] || !fraction.all Char.isDigit then none
      else return cs.take 8 ++ '.' :: fractionOfSecond fraction
    | _ => none
  | _ => none

def offset? (cs : List Char) : Option (List Char) :=
  match cs with
  | [] => some []
  | ['z'] | ['Z'] => some ['Z']
  | sign :: rest =>
    if (sign = '+' || sign = '-') && rest.length = 5 && rest[2]? = some ':' then do
      let _ ← field? 2 0 23 (rest.take 2)
      let _ ← field? 2 0 59 (rest.drop 3)
      return cs
    else none

def isOffsetMark (c : Char) : Bool := c = 'z' || c = 'Z' || c = '+' || c = '-'

-- A date, a time, or both with or without an offset. A `T` stands between date and time.
def time? (cs : List Char) : Option (List Char) :=
  match date? cs with
  | some d => some d
  | none =>
    match clock? cs with
    | some t => some t
    | none => do
      let date ← date? (cs.take 10)
      let mark ← cs[10]?
      if mark ≠ 'T' && mark ≠ 't' && mark ≠ ' ' then none
      let rest := cs.drop 11
      let clock := rest.takeWhile (!isOffsetMark ·)
      return date ++ 'T' :: (← clock? clock) ++ (← offset? (rest.drop clock.length))

def scalar? (cs : List Char) : Option Value :=
  if cs = "true".toList then some (.bool true)
  else if cs = "false".toList then some (.bool false)
  else
    ((int? cs).map .int).or <| ((float? cs).map .float).or <|
      (time? cs).map fun t => .time (String.ofList t)

def isScalarChar (c : Char) : Bool :=
  c.isDigit || ('a' ≤ c && c ≤ 'z') || ('A' ≤ c && c ≤ 'Z') || ['_', '+', '-', '.', ':'].contains c

-- Takes a value without quotes. A date may be followed by a blank and a time.
def takeScalar (cs : List Char) : List Char × List Char :=
  let word := cs.takeWhile isScalarChar
  let rest := cs.drop word.length
  match (date? word), rest with
  | some _, ' ' :: c :: rest' =>
    if c.isDigit then
      let time := (c :: rest').takeWhile isScalarChar
      (word ++ ' ' :: time, (c :: rest').drop time.length)
    else (word, rest)
  | _, _ => (word, rest)

end LanguageClient.Toml
