import LanguageClient.Json.Printer
import LanguageClient.Text.Quoted

namespace LanguageClient

inductive Mismatch
  | missing (field : String)
  | wrongType (found : Json) (expected : String)
  | outOfRange (found : Int) (expected : String)
  | wrongLength (found : Nat) (expected : String)
  | noVariant (type : String)
  | rejected (reason : String)

def Json.described : Json → String
  | .null => "null"
  | .bool b => "boolean `" ++ toString b ++ "`"
  | .num (.int n) => "integer `" ++ toString n ++ "`"
  | .num (.float x) => "floating point `" ++ x.text ++ "`"
  | .str s => "string " ++ Text.quoted s
  | .arr _ => "sequence"
  | .obj _ => "map"

def Mismatch.message : Mismatch → String
  | .missing field => "missing field `" ++ field ++ "`"
  | .wrongType found expected => "invalid type: " ++ found.described ++ ", expected " ++ expected
  | .outOfRange found expected =>
    "invalid value: " ++ (Json.int found).described ++ ", expected " ++ expected
  | .wrongLength found expected => "invalid length " ++ toString found ++ ", expected " ++ expected
  | .noVariant type => "data did not match any variant of untagged enum " ++ type
  | .rejected reason => reason

abbrev Reader (α : Type) := Json → Except Mismatch α

namespace Reader

def json : Reader Json := .ok

def string : Reader String
  | .str s => .ok s
  | j => .error (.wrongType j "a string")

def bool : Reader Bool
  | .bool b => .ok b
  | j => .error (.wrongType j "a boolean")

def integer (expected : String) (low high : Int) : Reader Int
  | .num (.int n) => if low ≤ n ∧ n ≤ high then .ok n else .error (.outOfRange n expected)
  | j => .error (.wrongType j expected)

def int32 : Reader Int := integer "i32" (-2147483648) 2147483647

def int64 : Reader Int := integer "i64" (-9223372036854775808) 9223372036854775807

def nat32 : Reader Nat := fun j => (integer "u32" 0 4294967295 j).map Int.toNat

def items (read : Reader α) : List Json → Except Mismatch (List α)
  | [] => .ok []
  | j :: js =>
    match read j with
    | .error e => .error e
    | .ok a => (items read js).map (a :: ·)

def list (read : Reader α) : Reader (List α)
  | .arr js => items read js
  | j => .error (.wrongType j "a sequence")

def optional (read : Reader α) : Reader (Option α)
  | .null => .ok none
  | j => (read j).map some

def firstOf (type : String) : List (Reader α) → Reader α
  | [], _ => .error (.noVariant type)
  | read :: rest, j =>
    match read j with
    | .ok a => .ok a
    | .error _ => firstOf type rest j

end Reader

structure Slot where
  name     : String
  complain : Json → Option Mismatch

structure Fields (α : Type) where
  slots : List Slot
  build : (String → Option Json) → Except Mismatch α

namespace Fields

def complaint (read : Reader α) (j : Json) : Option Mismatch :=
  match read j with
  | .ok _ => none
  | .error e => some e

def required (name : String) (read : Reader α) : Fields α where
  slots := [⟨name, complaint read⟩]
  build get :=
    match get name with
    | none => .error (.missing name)
    | some j => read j

def optional (name : String) (read : Reader α) : Fields (Option α) where
  slots := [⟨name, complaint (Reader.optional read)⟩]
  build get :=
    match get name with
    | none => .ok none
    | some j => Reader.optional read j

-- A field that may be absent, but not `null`.
def defaulting (name : String) (read : Reader α) (default : α) : Fields α where
  slots := [⟨name, complaint read⟩]
  build get :=
    match get name with
    | none => .ok default
    | some j => read j

instance : Applicative Fields where
  pure a := ⟨[], fun _ => .ok a⟩
  seq f x :=
    { slots := f.slots ++ (x ()).slots
      build := fun get =>
        match f.build get with
        | .error e => .error e
        | .ok g => ((x ()).build get).map g }

def memberComplaint (slots : List Slot) (members : Members) : Option Mismatch :=
  members.findSome? fun (k, v) => (slots.find? (·.name = k)).bind (·.complain v)

def itemComplaint (type : String) (slots : List Slot) (items : List Json) : Option Mismatch :=
  go 0 slots items
where
  go (n : Nat) : List Slot → List Json → Option Mismatch
    | [], [] => none
    | [], _ :: _ => some (.wrongLength items.length "fewer elements in array")
    | _ :: _, [] =>
      let count := toString slots.length ++ (if slots.length = 1 then " element" else " elements")
      some (.wrongLength n ("struct " ++ type ++ " with " ++ count))
    | slot :: slots, j :: js => (slot.complain j).or (go (n + 1) slots js)

def named (slots : List Slot) (items : List Json) : Members :=
  (slots.map (·.name)).zip items

-- Reads a record. A member that no field names is ignored. What is wrong with a member counts
-- before what is missing.
def record (type : String) (fields : Fields α) : Reader α
  | .obj members =>
    match memberComplaint fields.slots members with
    | some e => .error e
    | none => fields.build fun k => Members.get? k members
  | .arr items =>
    match itemComplaint type fields.slots items with
    | some e => .error e
    | none => fields.build fun k => Members.get? k (named fields.slots items)
  | j => .error (.wrongType j ("struct " ++ type))

def objectOnly (type : String) (fields : Fields α) : Reader α
  | .arr items => .error (.wrongType (.arr items) ("struct " ++ type))
  | j => record type fields j

end Fields
end LanguageClient
