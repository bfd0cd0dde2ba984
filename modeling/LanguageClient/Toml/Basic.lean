import LanguageClient.Decimal.Shortest

namespace LanguageClient.Toml

inductive Value
  | text (s : String)
  | int (n : Int)
  | float (x : Binary64)
  | bool (b : Bool)
  | time (s : String)
  | list (items : List Value)
  | table (entries : List (String × Value))

-- How a table came to be: by its own header, by the header of a table inside it, or by a key with
-- dots.
inductive Origin
  | header
  | implied
  | dotted
  deriving DecidableEq, Repr

-- A part of a document: a value that is complete, a table, or a list of tables whose last one is
-- added to.
inductive Node
  | value (v : Value)
  | table (origin : Origin) (entries : List (String × Node))
  | tables (done : List (List (String × Node))) (last : List (String × Node))

abbrev Entries := List (String × Node)

namespace Entries

def get? (key : String) (es : Entries) : Option Node :=
  (es.find? (·.1 = key)).map (·.2)

def replace (key : String) (node : Node) (es : Entries) : Entries :=
  es.map fun (k, n) => if k = key then (k, node) else (k, n)

-- Whether a key with dots may lead into a table. It goes through tables without a header of their
-- own, and ends in one that keys with dots have made.
def admitsDotted (isLast : Bool) (origin : Origin) : Bool :=
  origin = .dotted || (!isLast && origin = .implied)

-- Changes the table at a path. Tables that are missing on the way are made; `dotted` tells that the
-- path is that of a key with dots and not of a header.
def update? (dotted : Bool) (change : Entries → Option Entries) : List String → Entries → Option Entries
  | [], es => change es
  | key :: path, es =>
    match get? key es with
    | none =>
      (update? dotted change path []).map fun sub =>
        es ++ [(key, .table (if dotted then .dotted else .implied) sub)]
    | some (.value _) => none
    | some (.table origin sub) =>
      if dotted && !admitsDotted path.isEmpty origin then none
      else (update? dotted change path sub).map fun sub => replace key (.table origin sub) es
    | some (.tables done last) =>
      if dotted && path.isEmpty then none
      else (update? dotted change path last).map fun last => replace key (.tables done last) es

def openTable? (key : String) (es : Entries) : Option Entries :=
  match get? key es with
  | none => some (es ++ [(key, .table .header [])])
  | some (.table .implied sub) => some (replace key (.table .header sub) es)
  | some _ => none

def openItem? (key : String) (es : Entries) : Option Entries :=
  match get? key es with
  | none => some (es ++ [(key, .tables [] [])])
  | some (.tables done last) => some (replace key (.tables (done ++ [last]) []) es)
  | some _ => none

def add? (key : String) (v : Value) (es : Entries) : Option Entries :=
  match get? key es with
  | none => some (es ++ [(key, .value v)])
  | some _ => none

end Entries

structure Path where
  within : List String
  last   : String

mutual

def Node.toValue : Node → Value
  | .value v => v
  | .table _ es => .table (Entries.toValues es)
  | .tables done last => .list (tablesToValues done ++ [.table (Entries.toValues last)])

def Entries.toValues : List (String × Node) → List (String × Value)
  | [] => []
  | (k, n) :: es => (k, n.toValue) :: Entries.toValues es

def tablesToValues : List (List (String × Node)) → List Value
  | [] => []
  | es :: rest => .table (Entries.toValues es) :: tablesToValues rest

end

end LanguageClient.Toml
