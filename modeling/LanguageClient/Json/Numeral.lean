import LanguageClient.Json.Basic

namespace LanguageClient.Json

inductive Numeral.Phase
  | sign
  | zero
  | integer
  | long
  | point
  | fraction
  | fine
  | mark
  | markSign (negative : Bool)
  | power (negative : Bool) (n : Nat)
  | hugePower
  deriving DecidableEq, Repr

structure Numeral where
  negative    : Bool
  significand : Nat
  exponent    : Int
  phase       : Numeral.Phase
  deriving DecidableEq, Repr

namespace Numeral

inductive Step
  | more (n : Numeral)
  | over
  | invalid
  | outOfRange
  deriving DecidableEq, Repr

def ofSign : Numeral := ⟨true, 0, 0, .sign⟩

def ofDigit (negative : Bool) (c : Char) : Numeral :=
  ⟨negative, c.toNat - 48, 0, if c = '0' then .zero else .integer⟩

-- Digits that do not fit are dropped and counted in the power of ten.
def grow? (n : Numeral) (c : Char) : Option Nat :=
  let s := n.significand * 10 + (c.toNat - 48)
  if s < UInt64.size then some s else none

def isMark (c : Char) : Bool := c = 'e' || c = 'E'

def fractionDigit (n : Numeral) (c : Char) : Step :=
  match n.grow? c with
  | some s => .more { n with significand := s, exponent := n.exponent - 1, phase := .fraction }
  | none => .more { n with phase := .fine }

def powerDigit (n : Numeral) (negative : Bool) (p : Nat) (c : Char) : Step :=
  let p' := p * 10 + (c.toNat - 48)
  if p' < 2147483648 then .more { n with phase := .power negative p' }
  else if n.significand ≠ 0 && !negative then .outOfRange
  else .more { n with phase := .hugePower }

def step (n : Numeral) (c : Char) : Step :=
  match n.phase with
  | .sign => if c.isDigit then .more (ofDigit true c) else .invalid
  | .zero =>
    if c.isDigit then .invalid
    else if c = '.' then .more { n with phase := .point }
    else if isMark c then .more { n with phase := .mark }
    else .over
  | .integer =>
    if c.isDigit then
      match n.grow? c with
      | some s => .more { n with significand := s }
      | none => .more { n with exponent := 1, phase := .long }
    else if c = '.' then .more { n with phase := .point }
    else if isMark c then .more { n with phase := .mark }
    else .over
  | .long =>
    if c.isDigit then .more { n with exponent := n.exponent + 1 }
    else if c = '.' then .more { n with phase := .point }
    else if isMark c then .more { n with phase := .mark }
    else .over
  | .point => if c.isDigit then n.fractionDigit c else .invalid
  | .fraction =>
    if c.isDigit then n.fractionDigit c
    else if isMark c then .more { n with phase := .mark }
    else .over
  | .fine =>
    if c.isDigit then .more n
    else if isMark c then .more { n with phase := .mark }
    else .over
  | .mark =>
    if c = '+' || c = '-' then .more { n with phase := .markSign (c = '-') }
    else if c.isDigit then .more { n with phase := .power false (c.toNat - 48) }
    else .invalid
  | .markSign negative =>
    if c.isDigit then .more { n with phase := .power negative (c.toNat - 48) } else .invalid
  | .power negative p => if c.isDigit then n.powerDigit negative p c else .over
  | .hugePower => if c.isDigit then .more n else .over

def isComplete (n : Numeral) : Bool :=
  match n.phase with
  | .sign | .point | .mark | .markSign _ => false
  | _ => true

-- Scales a double by a power of ten, in steps of at most 308 places; `none` if it is too large.
def scaled (f : Float) (exponent : Int) : Option Float :=
  if exponent.natAbs ≤ 308 then
    if exponent ≥ 0 then
      let g := f * Float.ofScientific 1 false exponent.natAbs
      if g.isInf then none else some g
    else some (f / Float.ofScientific 1 false exponent.natAbs)
  else if f == 0 then some f
  else if exponent ≥ 0 then none
  else scaled (f / 1e308) (exponent + 308)
termination_by exponent.natAbs

def double (n : Numeral) (exponent : Int) : Option Number :=
  (scaled n.significand.toUInt64.toFloat exponent).map fun f =>
    .float (Binary64.ofFloat (if n.negative then -f else f))

def value (n : Numeral) : Option Number :=
  match n.phase with
  | .zero | .integer | .sign =>
    if !n.negative then some (.int n.significand)
    else if n.significand = 0 || n.significand > 9223372036854775808 then n.double 0
    else some (.int (-n.significand))
  | .power negative p => n.double (n.exponent + if negative then -(p : Int) else p)
  | .hugePower => some (.float (Binary64.ofFloat (if n.negative then -0.0 else 0.0)))
  | _ => n.double n.exponent

end Numeral
end LanguageClient.Json
