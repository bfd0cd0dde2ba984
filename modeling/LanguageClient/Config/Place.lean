import LanguageClient.Config.Setting

namespace LanguageClient.Config

inductive Step
  | key (name : String)
  | position (n : Int)
  deriving DecidableEq, Repr

-- The steps that lead to a place. A position below zero counts from the end of a list.
abbrev Place := List Step

namespace Place

def isNameChar (c : Char) : Bool :=
  c.isDigit || ('a' ≤ c && c ≤ 'z') || ('A' ≤ c && c ≤ 'Z') || c = '_' || c = '-'

def takeName? (cs : List Char) : Option (String × List Char) :=
  match cs.takeWhile isNameChar with
  | [] => none
  | name => some (String.ofList name, cs.drop name.length)

def dropBlanks (cs : List Char) : List Char := cs.dropWhile fun c => c = ' ' || c = '\t'

def takePosition? (cs : List Char) : Option (Int × List Char) :=
  let cs := dropBlanks cs
  let (negative, cs) := match cs with
    | '-' :: rest => (true, rest)
    | _ => (false, cs)
  let digits := cs.takeWhile Char.isDigit
  let n : Nat := digits.foldl (fun n c => n * 10 + (c.toNat - 48)) 0
  let position : Int := if negative then -n else n
  match digits, dropBlanks (cs.drop digits.length) with
  | [], _ => none
  | _, ']' :: rest =>
    if -9223372036854775808 ≤ position && position ≤ 9223372036854775807 then some (position, rest)
    else none
  | _, _ => none

def stepsFrom? : Nat → List Char → Option Place
  | 0, _ => none
  | _ + 1, [] => some []
  | n + 1, '.' :: cs => do
    let (name, rest) ← takeName? cs
    return .key name :: (← stepsFrom? n rest)
  | n + 1, '[' :: cs => do
    let (position, rest) ← takePosition? cs
    return .position position :: (← stepsFrom? n rest)
  | _ + 1, _ :: _ => none

def ofText? (text : String) : Option Place := do
  let (name, rest) ← takeName? text.toList
  return .key name :: (← stepsFrom? (rest.length + 1) rest)

-- The place that a key names. A text that is not of the form of a place is a key as a whole.
def ofKey (key : String) : Place := (ofText? key).getD [.key key]

end Place

namespace Setting

-- Changes the item at a position. A list that is too short is filled up.
def changeItem (n : Int) (change : Setting → Setting) (items : List Setting) : List Setting :=
  let fromStart := if 0 ≤ n then n else items.length + n
  if fromStart < 0 then change unset :: List.replicate (fromStart.natAbs - 1) unset ++ items
  else
    let filled := items ++ List.replicate (fromStart.toNat + 1 - items.length) unset
    filled.modify fromStart.toNat change

def changeAt (change : Setting → Setting) : Place → Setting → Setting
  | [], s => change s
  | .key name :: place, s =>
    let old := (s.entries.get? name).getD unset
    .table none (s.entries.set name (changeAt change place old))
  | .position n :: place, s =>
    .list none (changeItem n (changeAt change place) s.items)

-- Puts the outermost entries of a source over what is set, each at the place that its key names.
def overlay (es : Entries) (base : Setting) : Setting :=
  es.foldl (fun s (key, new) => changeAt new.onto (Place.ofKey key) s) base

end Setting
end LanguageClient.Config
