import LanguageClient.Toml.Quoted
import LanguageClient.Toml.Scalar

namespace LanguageClient.Toml

def dropBlanks (cs : List Char) : Rest := cs.dropWhile isInlineBlank

def isBareChar (c : Char) : Bool :=
  c.isDigit || ('a' ≤ c && c ≤ 'z') || ('A' ≤ c && c ≤ 'Z') || c = '_' || c = '-'

def key? (cs : List Char) : Option (String × Rest) :=
  match cs with
  | '"' :: rest => (basic? rest).map fun (k, rest) => (String.ofList k, rest)
  | '\'' :: rest => (literal? rest).map fun (k, rest) => (String.ofList k, rest)
  | _ =>
    let k := cs.takeWhile isBareChar
    if k = [] then none else some (String.ofList k, cs.drop k.length)

def pathFrom : Nat → List Char → Option (Path × Rest)
  | 0, _ => none
  | n + 1, cs => do
    let (k, rest) ← key? (dropBlanks cs)
    match dropBlanks rest with
    | '.' :: rest =>
      let (path, rest) ← pathFrom n rest
      return (⟨k :: path.within, path.last⟩, rest)
    | rest => return (⟨[], k⟩, rest)

def path? (cs : List Char) : Option (Path × Rest) :=
  pathFrom (cs.length + 1) cs

def skipComment? (cs : List Char) : Option Rest :=
  match cs with
  | '#' :: rest =>
    match rest.dropWhile (!isControl ·) with
    | [] => some []
    | rest => if (lineEnd? rest).isSome then some rest else none
  | _ => some cs

def skipLines? : Nat → List Char → Option Rest
  | 0, cs => some cs
  | n + 1, cs => do
    let rest ← skipComment? (dropBlanks cs)
    match lineEnd? rest with
    | some rest => skipLines? n rest
    | none => return rest

def skip? (cs : List Char) : Option Rest :=
  skipLines? (cs.length + 1) cs

def addAt? (path : Path) (v : Value) (es : Entries) : Option Entries :=
  Entries.update? true (Entries.add? path.last v) path.within es

mutual

def valueFrom : Nat → List Char → Option (Value × Rest)
  | 0, _ => none
  | n + 1, cs =>
    match cs with
    | '[' :: rest => do
      let (items, rest) ← itemsFrom n (← skip? rest)
      return (.list items, rest)
    | '{' :: rest => do
      let (es, rest) ← entriesFrom n [] (← skip? rest)
      return (.table (Entries.toValues es), rest)
    | '"' :: _ | '\'' :: _ => (string? cs).map fun (s, rest) => (.text (String.ofList s), rest)
    | _ => do
      let (word, rest) := takeScalar cs
      return (← scalar? word, rest)

def itemsFrom : Nat → List Char → Option (List Value × Rest)
  | 0, _ => none
  | n + 1, cs =>
    match cs with
    | ']' :: rest => some ([], rest)
    | _ => do
      let (v, rest) ← valueFrom n cs
      match ← skip? rest with
      | ',' :: rest =>
        let (vs, rest) ← itemsFrom n (← skip? rest)
        return (v :: vs, rest)
      | ']' :: rest => return ([v], rest)
      | _ => none

def entriesFrom : Nat → Entries → List Char → Option (Entries × Rest)
  | 0, _, _ => none
  | n + 1, es, cs =>
    match cs with
    | '}' :: rest => some (es, rest)
    | _ => do
      let (path, rest) ← path? cs
      match rest with
      | '=' :: rest =>
        let (v, rest) ← valueFrom n (dropBlanks rest)
        let es ← addAt? path v es
        match ← skip? rest with
        | ',' :: rest => entriesFrom n es (← skip? rest)
        | '}' :: rest => return (es, rest)
        | _ => none
      | _ => none

end

def value? (cs : List Char) : Option (Value × Rest) :=
  valueFrom (2 * cs.length + 2) cs

structure Document where
  root    : Entries
  current : List String

namespace Document

def keys (path : Path) : List String := path.within ++ [path.last]

def header? (d : Document) (cs : List Char) : Option (Document × Rest) :=
  match cs with
  | '[' :: rest => do
    match ← path? rest with
    | (path, ']' :: ']' :: rest) =>
      let root ← Entries.update? false (Entries.openItem? path.last) path.within d.root
      return (⟨root, keys path⟩, rest)
    | _ => none
  | _ => do
    match ← path? cs with
    | (path, ']' :: rest) =>
      let root ← Entries.update? false (Entries.openTable? path.last) path.within d.root
      return (⟨root, keys path⟩, rest)
    | _ => none

def pair? (d : Document) (cs : List Char) : Option (Document × Rest) := do
  match ← path? cs with
  | (path, '=' :: rest) =>
    let (v, rest) ← value? (dropBlanks rest)
    let root ← Entries.update? false (addAt? path v) d.current d.root
    return ({ d with root }, rest)
  | _ => none

def line? (d : Document) (cs : List Char) : Option (Document × Rest) :=
  match cs with
  | [] | '#' :: _ | '\n' :: _ | '\r' :: _ => some (d, cs)
  | '[' :: rest => d.header? rest
  | _ => d.pair? cs

-- One line, and the characters from the end of the line on.
def wholeLine? (d : Document) (cs : List Char) : Option (Document × Rest) := do
  let (d, rest) ← d.line? (dropBlanks cs)
  match ← skipComment? (dropBlanks rest) with
  | [] => return (d, [])
  | rest => return (d, ← lineEnd? rest)

-- Reads at most `n` lines, up to the first that cannot be read. That one is given with what was read
-- before.
def go (d : Document) : Nat → List Char → Except (Document × Rest) Document
  | 0, cs => .error (d, cs)
  | n + 1, cs =>
    match d.wholeLine? cs with
    | none => .error (d, cs)
    | some (d, []) => .ok d
    | some (d, rest) => d.go n rest

end Document

def body (text : String) : List Char :=
  match text.toList with
  | '\uFEFF' :: cs => cs
  | cs => cs

def read (text : String) : Except (Document × Rest) (List (String × Value)) :=
  (Document.go ⟨[], []⟩ ((body text).length + 1) (body text)).map fun d => Entries.toValues d.root

end LanguageClient.Toml
