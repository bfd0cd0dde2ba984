import LanguageClient.Uri.Ipv6

namespace LanguageClient.Uri.Reference

inductive Fault
  | unexpected (index : Nat)
  | percent (index : Nat)
  | address (index : Nat)
  deriving DecidableEq, Repr

def Fault.message : Fault → String
  | .unexpected index => s!"unexpected character at index {index}"
  | .percent index => s!"invalid percent-encoded octet at index {index}"
  | .address index => s!"invalid IP literal at index {index}"

def isLetter (c : Char) : Bool := ('a' ≤ c && c ≤ 'z') || ('A' ≤ c && c ≤ 'Z')

def isUnreserved (c : Char) : Bool := isLetter c || c.isDigit || "-._~".toList.contains c

def isSubDelimiter (c : Char) : Bool := "!$&'()*+,;=".toList.contains c

def isSchemeChar (c : Char) : Bool := isLetter c || c.isDigit || "+-.".toList.contains c

def isNameChar (c : Char) : Bool := isUnreserved c || isSubDelimiter c

def isUserChar (c : Char) : Bool := isNameChar c || c = ':'

def isPathChar (c : Char) : Bool := isUserChar c || c = '@' || c = '/'

def isQueryChar (c : Char) : Bool := isPathChar c || c = '?'

structure Place where
  index : Nat
  rest  : List Char
  deriving DecidableEq, Repr

abbrev Step := Except Fault Place

def skip (allowed : Char → Bool) (index : Nat) : List Char → Step
  | [] => .ok ⟨index, []⟩
  | '%' :: rest =>
    match rest with
    | a :: b :: rest' =>
      if (hexValue? a).isSome && (hexValue? b).isSome then skip allowed (index + 3) rest'
      else .error (.percent index)
    | _ => .error (.percent index)
  | c :: rest =>
    if allowed c then skip allowed (index + 1) rest else .ok ⟨index, c :: rest⟩

def Place.skip (p : Place) (allowed : Char → Bool) : Step :=
  Reference.skip allowed p.index p.rest

def Place.next (p : Place) : Place := ⟨p.index + 1, p.rest.drop 1⟩

def Place.starts (p : Place) (c : Char) : Bool := p.rest.head? = some c

def ending (p : Place) : Step := do
  let p ← if p.starts '?' then p.next.skip isQueryChar else .ok p
  let p ← if p.starts '#' then p.next.skip isQueryChar else .ok p
  if p.rest = [] then .ok p else .error (.unexpected p.index)

def path (p : Place) : Step := do
  ending (← p.skip isPathChar)

def pathAfterHost (p : Place) : Step := do
  let after ← p.skip isPathChar
  if after.index ≠ p.index && !p.starts '/' then .error (.unexpected p.index)
  ending after

def pathWithoutScheme (p : Place) : Step := do
  let p ← p.skip fun c => isNameChar c || c = '@'
  if p.starts ':' then .error (.unexpected 0)
  path p

def port (p : Place) : Place :=
  if p.starts ':' then
    let digits := p.next.rest.takeWhile Char.isDigit
    ⟨p.index + 1 + digits.length, p.next.rest.drop digits.length⟩
  else p

def address (p : Place) : Step :=
  let inside := (p.rest.drop 1).takeWhile (· ≠ ']')
  let after := p.rest.drop (inside.length + 1)
  if after.head? = some ']' && (Ipv6.parse? inside).isSome then
    .ok ⟨p.index + inside.length + 2, after.drop 1⟩
  else .error (.address p.index)

def host (p : Place) : Step :=
  if p.starts '[' then address p else p.skip isNameChar

def lastNonDigit (index : Nat) : List Char → Option Nat
  | [] => none
  | c :: cs => (lastNonDigit (index + 1) cs).or (if c.isDigit then none else some index)

def nameAndPort (p : Place) (scanned : List Char) : Except Fault PUnit :=
  let name := scanned.takeWhile (· ≠ ':')
  let after := scanned.drop (name.length + 1)
  if after.contains ':' then .error (.unexpected (p.index + name.length))
  else
    match lastNonDigit (p.index + name.length + 1) after with
    | some index => .error (.unexpected index)
    | none => .ok ⟨⟩

def authority (p : Place) : Step := do
  let after ← p.skip isUserChar
  if after.starts '@' then pathAfterHost (port (← host after.next))
  else if after.index = p.index then
    if p.starts '[' then pathAfterHost (port (← address p)) else pathAfterHost p
  else
    nameAndPort p (p.rest.take (after.index - p.index))
    pathAfterHost after

def afterScheme (p : Place) : Step :=
  if p.rest.take 2 = ['/', '/'] then authority p.next.next else path p

-- Reads a reference. A colon behind scheme characters makes them a scheme, which begins with a
-- letter.
def check (cs : List Char) : Except Fault PUnit := do
  let scheme := cs.takeWhile isSchemeChar
  let p : Place := ⟨scheme.length, cs.drop scheme.length⟩
  if p.starts ':' then
    if scheme.head?.any isLetter then do
      let _ ← afterScheme p.next
      return ⟨⟩
    else .error (.unexpected 0)
  else
    let _ ← if scheme = [] && cs.take 2 = ['/', '/'] then authority ⟨2, cs.drop 2⟩
      else pathWithoutScheme ⟨0, cs⟩
    return ⟨⟩

end LanguageClient.Uri.Reference
