import LanguageClient.Json.Parser

namespace LanguageClient.Toml

abbrev Rest := List Char

def isControl (c : Char) : Bool :=
  let n := c.toNat
  (n < 32 && n ≠ 9) || n = 127

def charOf? (code : Nat) : Option Char :=
  if code < 0xD800 || (0xDFFF < code && code ≤ 0x10FFFF) then some (Char.ofNat code) else none

def hexChar? (digits : Nat) (cs : List Char) : Option (Char × Rest) :=
  let taken := cs.take digits
  if taken.length = digits && taken.all fun c => (Json.hexValue? c).isSome then
    (charOf? (taken.foldl (fun n c => n * 16 + (Json.hexValue? c).getD 0) 0)).map (·, cs.drop digits)
  else none

def escape? : List Char → Option (Char × Rest)
  | 'b' :: rest => some ('\x08', rest)
  | 't' :: rest => some ('\t', rest)
  | 'n' :: rest => some ('\n', rest)
  | 'f' :: rest => some ('\x0c', rest)
  | 'r' :: rest => some ('\r', rest)
  | 'e' :: rest => some ('\x1b', rest)
  | '"' :: rest => some ('"', rest)
  | '\\' :: rest => some ('\\', rest)
  | 'x' :: rest => hexChar? 2 rest
  | 'u' :: rest => hexChar? 4 rest
  | 'U' :: rest => hexChar? 8 rest
  | _ => none

def basicFrom : Nat → List Char → Option (List Char × Rest)
  | 0, _ => none
  | n + 1, cs =>
    match cs with
    | [] => none
    | '"' :: rest => some ([], rest)
    | '\\' :: rest => do
      let (c, rest) ← escape? rest
      let (s, rest) ← basicFrom n rest
      return (c :: s, rest)
    | c :: rest =>
      if isControl c then none
      else (basicFrom n rest).map fun (s, rest) => (c :: s, rest)

def basic? (cs : List Char) : Option (List Char × Rest) :=
  basicFrom (cs.length + 1) cs

def literal? : List Char → Option (List Char × Rest)
  | [] => none
  | '\'' :: rest => some ([], rest)
  | c :: rest => if isControl c then none else (literal? rest).map fun (s, rest) => (c :: s, rest)

def lineEnd? : List Char → Option Rest
  | '\n' :: rest => some rest
  | '\r' :: '\n' :: rest => some rest
  | _ => none

def isInlineBlank (c : Char) : Bool := c = ' ' || c = '\t'

def isAnyBlank (c : Char) : Bool := isInlineBlank c || c = '\n' || c = '\r'

def foldedLine? (cs : List Char) : Option Rest :=
  (lineEnd? (cs.dropWhile isInlineBlank)).map (·.dropWhile isAnyBlank)

-- The end of a string in three quotes: up to two more quotes belong to the string.
def closing? (quote : Char) (cs : List Char) : Option (List Char × Rest) :=
  let quotes := cs.takeWhile (· = quote)
  if quotes.length < 3 then none
  else
    let more := min (quotes.length - 3) 2
    some (List.replicate more quote, cs.drop (more + 3))

def linesFrom (quote : Char) : Nat → List Char → Option (List Char × Rest)
  | 0, _ => none
  | n + 1, cs =>
    match closing? quote cs with
    | some found => some found
    | none =>
      match cs with
      | [] => none
      | c :: rest =>
        if c = '\\' && quote = '"' then
          match foldedLine? rest with
          | some rest => linesFrom quote n rest
          | none => do
            let (c, rest) ← escape? rest
            let (s, rest) ← linesFrom quote n rest
            return (c :: s, rest)
        else
          match lineEnd? cs with
          | some rest => (linesFrom quote n rest).map fun (s, rest) => ('\n' :: s, rest)
          | none =>
            if isControl c then none
            else (linesFrom quote n rest).map fun (s, rest) => (c :: s, rest)

-- A string in three quotes, without the first three. A line end right behind them does not count.
def multiline? (quote : Char) (cs : List Char) : Option (List Char × Rest) :=
  let cs := (lineEnd? cs).getD cs
  linesFrom quote (cs.length + 1) cs

def string? : List Char → Option (List Char × Rest)
  | '"' :: '"' :: '"' :: rest => multiline? '"' rest
  | '\'' :: '\'' :: '\'' :: rest => multiline? '\'' rest
  | '"' :: rest => basic? rest
  | '\'' :: rest => literal? rest
  | _ => none

end LanguageClient.Toml
