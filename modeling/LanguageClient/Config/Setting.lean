import LanguageClient.Decimal.Plain
import LanguageClient.Json.Basic
import LanguageClient.Text.Quoted
import LanguageClient.Toml.Basic

namespace LanguageClient.Config

inductive Scalar
  | nothing
  | bool (b : Bool)
  | int (n : Int)
  | float (x : Binary64)
  | text (s : String)

-- A part of a configuration and the source it comes from. A table that is joined from several
-- sources belongs to none.
inductive Setting
  | scalar (source? : Option String) (value : Scalar)
  | list (source? : Option String) (items : List Setting)
  | table (source? : Option String) (entries : List (String × Setting))

abbrev Entries := List (String × Setting)

namespace Entries

def get? (key : String) (es : Entries) : Option Setting :=
  (es.find? (·.1 = key)).map (·.2)

def set (key : String) (s : Setting) : Entries → Entries
  | [] => [(key, s)]
  | (k, t) :: es => if k = key then (k, s) :: es else (k, t) :: set key s es

end Entries

namespace Setting

def unset : Setting := .scalar none .nothing

def entries : Setting → Entries
  | .table _ es => es
  | .scalar .. | .list .. => []

def items : Setting → List Setting
  | .list _ items => items
  | .scalar .. | .table .. => []

mutual

-- Tables are joined key by key; anything else replaces what was there.
def onto : Setting → Setting → Setting
  | .table _ es, old => .table none (ontoEntries es old.entries)
  | .scalar source? v, _ => .scalar source? v
  | .list source? items, _ => .list source? items

def ontoEntries : List (String × Setting) → Entries → Entries
  | [], old => old
  | (k, s) :: es, old => ontoEntries es (old.set k (onto s ((old.get? k).getD unset)))

end

mutual

def ofToml (source : String) : Toml.Value → Setting
  | .text s => .scalar source (.text s)
  | .int n => .scalar source (.int n)
  | .float x => .scalar source (.float x)
  | .bool b => .scalar source (.bool b)
  | .time s => .scalar source (.text s)
  | .list vs => .list source (listOfToml source vs)
  | .table es => .table source (entriesOfToml source es)

def listOfToml (source : String) : List Toml.Value → List Setting
  | [] => []
  | v :: vs => ofToml source v :: listOfToml source vs

def entriesOfToml (source : String) : List (String × Toml.Value) → Entries
  | [] => []
  | (k, v) :: es => (k, ofToml source v) :: entriesOfToml source es

end

-- An integer of 64 bits is exact, any other a double.
def ofInt (n : Int) : Scalar :=
  if n ≤ 9223372036854775807 then .int n else .float (.ofFloat (Float.ofNat n.toNat))

mutual

def ofJson (source : String) : Json → Setting
  | .null => .scalar source .nothing
  | .bool b => .scalar source (.bool b)
  | .num (.int n) => .scalar source (ofInt n)
  | .num (.float x) => .scalar source (.float x)
  | .str s => .scalar source (.text s)
  | .arr js => .list source (listOfJson source js)
  | .obj ms => .table source (entriesOfJson source ms)

def listOfJson (source : String) : List Json → List Setting
  | [] => []
  | j :: js => ofJson source j :: listOfJson source js

def entriesOfJson (source : String) : List (String × Json) → Entries
  | [] => []
  | (k, j) :: ms => (k, ofJson source j) :: entriesOfJson source ms

end

def source? : Setting → Option String
  | .scalar source? _ | .list source? _ | .table source? _ => source?

def fractional (x : Binary64) : String :=
  let text := x.plainText
  if x.isFinite && !text.toList.contains '.' then text ++ ".0" else text

def described : Setting → String
  | .scalar _ .nothing => "unit value"
  | .scalar _ (.bool b) => "boolean `" ++ toString b ++ "`"
  | .scalar _ (.int n) => "integer `" ++ toString n ++ "`"
  | .scalar _ (.float x) => "floating point `" ++ fractional x ++ "`"
  | .scalar _ (.text s) => "string " ++ Text.quoted s
  | .list .. => "sequence"
  | .table .. => "map"

end Setting
end LanguageClient.Config
