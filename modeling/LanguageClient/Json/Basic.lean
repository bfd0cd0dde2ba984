import LanguageClient.Decimal.Shortest

namespace LanguageClient

-- A number is exact if it is an integer of 64 bits, signed or unsigned, and a double otherwise.
inductive Number
  | int (n : Int)
  | float (x : Binary64)
  deriving DecidableEq, Repr

inductive Json
  | null
  | bool (b : Bool)
  | num (n : Number)
  | str (s : String)
  | arr (items : List Json)
  | obj (members : List (String × Json))
  deriving Repr

-- The members of an object, sorted by key.
abbrev Members := List (String × Json)

namespace Members

def insert (key : String) (value : Json) : Members → Members
  | [] => [(key, value)]
  | (k, v) :: rest =>
    if key < k then (key, value) :: (k, v) :: rest
    else if key = k then (key, value) :: rest
    else (k, v) :: insert key value rest

-- The members that remain when each pair is inserted in turn: the last value of a key counts.
def ofList (pairs : List (String × Json)) : Members :=
  pairs.foldl (fun ms (k, v) => insert k v ms) []

def get? (key : String) (members : Members) : Option Json :=
  (members.find? (·.1 = key)).map (·.2)

end Members

namespace Json

def int (n : Int) : Json := .num (.int n)

def nat (n : Nat) : Json := .int n

def object (pairs : List (String × Json)) : Json :=
  .obj (Members.ofList pairs)

def objectOf (pairs : List (String × Option Json)) : Json :=
  .object (pairs.filterMap fun (k, v) => v.map (k, ·))

def get? (key : String) : Json → Option Json
  | .obj members => Members.get? key members
  | _ => none

mutual

def beq : Json → Json → Bool
  | .null, .null => true
  | .bool a, .bool b => a == b
  | .num a, .num b => a == b
  | .str a, .str b => a == b
  | .arr xs, .arr ys => beqItems xs ys
  | .obj xs, .obj ys => beqMembers xs ys
  | _, _ => false

def beqItems : List Json → List Json → Bool
  | [], [] => true
  | x :: xs, y :: ys => beq x y && beqItems xs ys
  | _, _ => false

def beqMembers : List (String × Json) → List (String × Json) → Bool
  | [], [] => true
  | (j, x) :: xs, (k, y) :: ys => j == k && beq x y && beqMembers xs ys
  | _, _ => false

end

instance : BEq Json := ⟨beq⟩

end Json
end LanguageClient
