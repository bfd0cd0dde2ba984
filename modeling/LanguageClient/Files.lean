import LanguageClient.Text.Lines
import LanguageClient.Text.Utf8

namespace LanguageClient

structure Files where
  working     : List String
  directories : List (List String)
  contents    : List (List String × Bytes)

namespace Files

inductive Fault
  | notFound
  | notDirectory
  | isDirectory
  | nameTooLong
  | notText
  deriving DecidableEq, Repr

def Fault.message : Fault → String
  | .notFound => "No such file or directory (os error 2)"
  | .notDirectory => "Not a directory (os error 20)"
  | .isDirectory => "Is a directory (os error 21)"
  | .nameTooLong => "File name too long (os error 36)"
  | .notText => "stream did not contain valid UTF-8"

abbrev Place := List String

def ancestors (p : Place) : List Place := (List.range p.length).map p.take

def add (fs : Files) (p : Place) (bytes : Bytes) : Files :=
  { fs with
    directories := fs.directories ++ ancestors p
    contents    := fs.contents.filter (·.1 ≠ p) ++ [(p, bytes)] }

def addDirectory (fs : Files) (p : Place) : Files :=
  { fs with directories := fs.directories ++ ancestors p ++ [p] }

def content? (fs : Files) (p : Place) : Option Bytes :=
  (fs.contents.find? (·.1 = p)).map (·.2)

def isDirectory (fs : Files) (p : Place) : Bool :=
  p = [] || p ∈ fs.directories

def names (path : String) : List String := (Text.split '/' path.toList).map String.ofList

def isAbsolute (path : String) : Bool := path.toList.head? = some '/'

def walk (fs : Files) (p : Place) : List String → Except Fault Place
  | [] => .ok p
  | name :: rest =>
    if !fs.isDirectory p then .error .notDirectory
    else if name = "" || name = "." then walk fs p rest
    else if name = ".." then walk fs p.dropLast rest
    else if Utf8.size name.toList > 255 then .error .nameTooLong
    else
      let q := p ++ [name]
      if fs.isDirectory q || (fs.content? q).isSome then walk fs q rest else .error .notFound

def resolve (fs : Files) (path : String) : Except Fault Place :=
  if path = "" then .error .notFound
  else fs.walk (if isAbsolute path then [] else fs.working) (names path)

def placeOf (working : Place) (path : String) : Place :=
  (names path).foldl (fun p name =>
    if name = "" || name = "." then p else if name = ".." then p.dropLast else p ++ [name])
    (if isAbsolute path then [] else working)

def absolute (p : Place) : String := "/" ++ "/".intercalate p

def text (fs : Files) (p : Place) : Except Fault String :=
  match fs.content? p with
  | some bytes =>
    match Utf8.decode bytes with
    | .ok s => .ok s
    | .error _ => .error .notText
  | none => .error (if fs.isDirectory p then .isDirectory else .notFound)

def lossyText? (fs : Files) (path : String) : Option String :=
  match fs.resolve path with
  | .ok p => (fs.content? p).map Utf8.lossy
  | .error _ => none

def fromRoot (fs : Files) (path : String) : String :=
  if isAbsolute path then path else absolute (fs.working ++ [path])

def apart : List String → List String → List String × List String
  | a :: as, b :: bs => if a = b then apart as bs else (a :: as, b :: bs)
  | as, bs => (as, bs)

def fromWorking (fs : Files) (path : String) : String :=
  let shown := (names (fs.fromRoot path)).filter fun n => n ≠ "" && n ≠ "."
  let (up, down) := apart fs.working shown
  "/".intercalate (up.map (fun _ => "..") ++ down)

end Files
end LanguageClient
