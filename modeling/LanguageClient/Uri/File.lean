import LanguageClient.Uri.Host

namespace LanguageClient.Uri.File

def isDropped (c : Char) : Bool := c = '\t' || c = '\n' || c = '\r'

def isAsciiLetter (c : Char) : Bool := ('a' ≤ c && c ≤ 'z') || ('A' ≤ c && c ≤ 'Z')

def isDrive : List Char → Bool
  | [c, d] => isAsciiLetter c && (d = ':' || d = '|')
  | _ => false

def isColonDrive : List Char → Bool
  | [c, d] => isAsciiLetter c && d = ':'
  | _ => false

def isSlash (c : Char) : Bool := c = '/'

def oneSlash (path : List Char) : List Char :=
  '/' :: path.dropWhile isSlash

def parent (path : List Char) : List Char :=
  (path.reverse.dropWhile (· ≠ '/')).reverse

def lastPart (path : List Char) : List Char :=
  (path.reverse.takeWhile (· ≠ '/')).reverse

def goUp (path : List Char) : List Char :=
  let bare := path.dropLast
  let root := parent bare = []
  let drive := isDrive (lastPart bare)
  let path := if path.getLast? = some '/' && !root && !drive then bare else path
  if isColonDrive (lastPart path) then path else parent path

def fragments (segment : List Char) : List (List Char) :=
  segment.splitOnP isDropped

-- Adds the escaped fragments of a segment. A drive that is complete before the segment ends is cut off
-- from the rest by a slash; the flag says whether the segment still begins where the path began.
def addFragments (path : List Char) (start : Nat) : List (List Char) → List Char × Nat
  | [] => (path, start)
  | f :: rest =>
    let cut := f ≠ [] && isColonDrive (path.drop 1)
    let path := if cut then path ++ ['/'] else path
    let start := if cut then start + 1 else start
    addFragments (path ++ percentEncode .pathSegment f) start rest

-- Adds a segment to a path. Dots that only show once characters are dropped act as they do in a path,
-- and a drive that comes first is written with a colon.
def addSegment (path segment : List Char) : List Char :=
  let path := if path.length > 1 then path ++ ['/'] else path
  let (added, start) := addFragments path path.length (fragments segment)
  let before := added.take start
  let last := added.drop start
  oneSlash <|
    if last = ['.', '.'] then goUp before
    else if last = ['.'] then if before.getLast? = some '/' then before else before ++ ['/']
    else if start = 1 && isDrive last then before ++ last.take 1 ++ [':']
    else added

def pathOf (segments : List (List Char)) : List Char :=
  (segments.filter fun s => s ≠ ['.'] && s ≠ ['.', '.']).foldl addSegment ['/']

def suffixOf (cs : List Char) : List Char :=
  match cs with
  | '?' :: rest =>
    let query := rest.takeWhile (· ≠ '#')
    match rest.dropWhile (· ≠ '#') with
    | [] => '?' :: percentEncode .query query
    | _ :: fragment =>
      '?' :: percentEncode .query query ++ '#' :: percentEncode .fragment fragment
  | '#' :: fragment => '#' :: percentEncode .fragment fragment
  | _ => []

def isMark (c : Char) : Bool := c = '?' || c = '#'

-- The host of a file: none for a drive, for this machine and for no name at all; otherwise the text
-- must name a host.
def hostText? (name : List Char) : Option (List Char) :=
  if name = [] || isDrive name then some []
  else
    match Host.parse? name with
    | none => none
    | some host => if host = .domain "localhost".toList then some [] else some host.text

-- The URI of a path on a host. A mark in the text of the host ends its name; what follows it stays
-- behind the path.
def ofHost? (host path : List Char) : Option (List Char) := do
  let host := host.filter fun c => !isDropped c
  let name := host.takeWhile fun c => !isMark c
  let marked := host.dropWhile fun c => !isMark c
  let shown ← hostText? name
  let tail := if marked = [] then [] else suffixOf (marked ++ ['/'])
  return "file://".toList ++ shown ++ pathOf (Text.split '/' (path.dropWhile isSlash)) ++ tail

def slashes (path : List Char) : List Char :=
  path.map fun c => if c = '\\' then '/' else c

def cutHost (path : List Char) : List Char × List Char :=
  match path with
  | '/' :: '/' :: rest => (Text.cut? '/' rest).getD ([], path)
  | _ => ([], path)

-- The URI of a path. What is no host becomes part of the path.
def ofPath (path : String) : String :=
  let path := slashes path.toList
  let (host, rest) := cutHost path
  String.ofList <|
    ((ofHost? host rest).or (ofHost? [] path)).getD "file:///".toList

def folderName (path : String) : String :=
  let path := slashes path.toList
  let name := lastPart (path.reverse.dropWhile isSlash).reverse
  if name = [] then "workspace" else String.ofList name

end LanguageClient.Uri.File
