namespace LanguageClient

abbrev Bytes := List UInt8

namespace Utf8

def encode (s : String) : Bytes :=
  s.toList.flatMap String.utf8EncodeChar

def size (cs : List Char) : Nat :=
  cs.foldl (fun n c => n + c.utf8Size) 0

-- A byte sequence falls apart into characters and the longest parts that cannot belong to one.
inductive Piece
  | char (c : Char)
  | invalid (length : Nat)
  | incomplete
  deriving DecidableEq, Repr

def width (a : UInt8) : Nat :=
  if a < 0x80 then 1
  else if 0xC2 ≤ a && a ≤ 0xDF then 2
  else if 0xE0 ≤ a && a ≤ 0xEF then 3
  else if 0xF0 ≤ a && a ≤ 0xF4 then 4
  else 0

def isContinuation (b : UInt8) : Bool :=
  0x80 ≤ b && b ≤ 0xBF

-- The second bytes that neither overlong forms, surrogates nor too large codes have.
def isSecond (a b : UInt8) : Bool :=
  if a = 0xE0 then 0xA0 ≤ b && b ≤ 0xBF
  else if a = 0xED then 0x80 ≤ b && b ≤ 0x9F
  else if a = 0xF0 then 0x90 ≤ b && b ≤ 0xBF
  else if a = 0xF4 then 0x80 ≤ b && b ≤ 0x8F
  else isContinuation b

-- The character that the payload bits spell: the first byte keeps its value below `lead`, each
-- further byte adds six bits.
def join (lead : Nat) (a : UInt8) (more : Bytes) : Char :=
  Char.ofNat <| more.foldl (fun n b => n * 64 + b.toNat % 64) (a.toNat % lead)

def continues (a : UInt8) (more : Bytes) (b : UInt8) : Bool :=
  if more = [] then isSecond a b else isContinuation b

-- What a byte between characters gives: the part it completes, and the character it opens.
def start (b : UInt8) : List Piece × Bytes :=
  match width b with
  | 0 => ([.invalid 1], [])
  | 1 => ([.char (join 128 b [])], [])
  | _ => ([], [b])

def step : Bytes → UInt8 → List Piece × Bytes
  | [], b => start b
  | a :: more, b =>
    if continues a more b then
      if more.length + 2 = width a then ([.char (join (Nat.pow 2 (7 - width a)) a (more ++ [b]))], [])
      else ([], a :: more ++ [b])
    else
      let (done, unfinished) := start b
      (.invalid (more.length + 1) :: done, unfinished)

def cut (unfinished : Bytes) : Bytes → List Piece
  | [] => if unfinished = [] then [] else [.incomplete]
  | b :: rest =>
    let (done, unfinished) := step unfinished b
    done ++ cut unfinished rest

def pieces (bytes : Bytes) : List Piece :=
  cut [] bytes

-- Why bytes are not text: a part that no continuation could mend, or an end inside a character.
inductive Fault
  | invalid (length index : Nat)
  | incomplete (index : Nat)
  deriving DecidableEq, Repr

def Fault.message : Fault → String
  | .invalid length index => s!"invalid utf-8 sequence of {length} bytes from index {index}"
  | .incomplete index => s!"incomplete utf-8 byte sequence from index {index}"

def ofPieces (index : Nat) : List Piece → Except Fault (List Char)
  | [] => .ok []
  | .char c :: rest => (ofPieces (index + c.utf8Size) rest).map (c :: ·)
  | .invalid length :: _ => .error (.invalid length index)
  | .incomplete :: _ => .error (.incomplete index)

def decode (bytes : Bytes) : Except Fault String :=
  (ofPieces 0 (pieces bytes)).map String.ofList

def lossy (bytes : Bytes) : String :=
  String.ofList <| (pieces bytes).map fun
    | .char c => c
    | _ => '\uFFFD'

end Utf8
end LanguageClient
