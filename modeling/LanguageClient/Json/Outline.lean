import LanguageClient.Json.Parser

namespace LanguageClient.Json

def passString? : List Char → Option (List Char)
  | [] => none
  | '"' :: rest => some rest
  | '\\' :: 'u' :: a :: b :: c :: d :: rest =>
    if [a, b, c, d].all fun x => (hexValue? x).isSome then passString? rest else none
  | '\\' :: c :: rest =>
    if ['"', '\\', '/', 'b', 'f', 'n', 'r', 't'].contains c then passString? rest else none
  | c :: rest => if c.toNat < 32 then none else passString? rest

def dropDigits (cs : List Char) : List Char := cs.dropWhile Char.isDigit

def passDigits? (cs : List Char) : Option (List Char) :=
  if cs.head?.any Char.isDigit then some (dropDigits cs) else none

def passNumber? (cs : List Char) : Option (List Char) := do
  let cs := if cs.head? = some '-' then cs.drop 1 else cs
  let cs ← match cs with
    | '0' :: rest => if rest.head?.any Char.isDigit then none else some rest
    | _ => passDigits? cs
  let cs ← match cs with
    | '.' :: rest => passDigits? rest
    | _ => some cs
  match cs with
  | 'e' :: rest | 'E' :: rest =>
    match rest with
    | '+' :: rest | '-' :: rest => passDigits? rest
    | _ => passDigits? rest
  | _ => some cs

def passScalar? (cs : List Char) : Option (List Char) :=
  match cs with
  | '"' :: rest => passString? rest
  | 'n' :: 'u' :: 'l' :: 'l' :: rest => some rest
  | 't' :: 'r' :: 'u' :: 'e' :: rest => some rest
  | 'f' :: 'a' :: 'l' :: 's' :: 'e' :: rest => some rest
  | _ => passNumber? cs

def dropSpace (cs : List Char) : List Char := cs.dropWhile isSpace

def passKey? (cs : List Char) : Option (List Char) := do
  match dropSpace cs with
  | '"' :: rest =>
    match dropSpace (← passString? rest) with
    | ':' :: rest => some rest
    | _ => none
  | _ => none

-- Passes over values in at most `n` steps. `inside` tells of each container that is open whether it is
-- an object, and `before` whether a value is due or has just been passed.
def passFrom : Nat → (before : Bool) → (inside : List Bool) → List Char → Option (List Char)
  | 0, _, _, _ => none
  | n + 1, true, inside, cs =>
    match dropSpace cs with
    | '[' :: rest =>
      match dropSpace rest with
      | ']' :: rest => passFrom n false inside rest
      | rest => passFrom n true (false :: inside) rest
    | '{' :: rest =>
      match dropSpace rest with
      | '}' :: rest => passFrom n false inside rest
      | rest => (passKey? rest).bind (passFrom n true (true :: inside))
    | rest => (passScalar? rest).bind (passFrom n false inside)
  | _ + 1, false, [], cs => some cs
  | n + 1, false, isObject :: inside, cs =>
    match dropSpace cs with
    | ',' :: rest =>
      if isObject then (passKey? rest).bind (passFrom n true (isObject :: inside))
      else passFrom n true (isObject :: inside) rest
    | c :: rest =>
      if c = (if isObject then '}' else ']') then passFrom n false inside rest else none
    | [] => none

def pass? (cs : List Char) : Option (List Char) :=
  passFrom (2 * cs.length + 2) true [] cs

def textBefore (cs rest : List Char) : String := String.ofList (cs.take (cs.length - rest.length))

def membersFrom : Nat → List Char → Option (List (String × String) × List Char)
  | 0, _ => none
  | n + 1, cs => do
    let cs := dropSpace cs
    let afterKey ← match cs with
      | '"' :: rest => passString? rest
      | _ => none
    let key ← match parse (textBefore cs afterKey) with
      | .ok (.str key) => some key
      | _ => none
    let value ← passKey? cs
    let rest ← pass? value
    let member := (key, textBefore value rest)
    match dropSpace rest with
    | ',' :: rest => (membersFrom n rest).map fun (ms, rest) => (member :: ms, rest)
    | '}' :: rest => return ([member], rest)
    | _ => none

-- The members of an object in the order of its text, a key as often as it is given. Keys are read,
-- values are passed over by their form alone.
def outline? (text : String) : Option (List (String × String)) :=
  match dropSpace text.toList with
  | '{' :: rest =>
    match dropSpace rest with
    | '}' :: rest => if dropSpace rest = [] then some [] else none
    | rest =>
      match membersFrom (rest.length + 1) rest with
      | some (members, rest) => if dropSpace rest = [] then some members else none
      | none => none
  | _ => none

def parseInside (text : String) : Option Json :=
  match parse ("[" ++ text ++ "]") with
  | .ok (.arr [j]) => some j
  | _ => none

end LanguageClient.Json
