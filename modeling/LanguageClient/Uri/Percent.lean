import LanguageClient.Text.Utf8

namespace LanguageClient.Uri

def upperHex (n : Nat) : Char :=
  if n < 10 then Char.ofNat (48 + n) else Char.ofNat (55 + n)

def percentByte (b : UInt8) : List Char :=
  ['%', upperHex (b.toNat / 16), upperHex (b.toNat % 16)]

-- A set of ASCII characters that are escaped; all others below the space or above `~` are too.
structure EscapeSet where
  extra : List Char

namespace EscapeSet

def contains (set : EscapeSet) (c : Char) : Bool :=
  c.toNat < 32 || c.toNat > 126 || set.extra.contains c

def pathSegment : EscapeSet := ⟨" \"<>`#?\x7b\x7d/%\\".toList⟩

def query : EscapeSet := ⟨" \"#<>'".toList⟩

def fragment : EscapeSet := ⟨" \"<>`".toList⟩

end EscapeSet

def percentChar (set : EscapeSet) (c : Char) : List Char :=
  if set.contains c then (String.utf8EncodeChar c).flatMap percentByte else [c]

def percentEncode (set : EscapeSet) (cs : List Char) : List Char :=
  cs.flatMap (percentChar set)

def hexValue? (c : Char) : Option Nat :=
  let n := c.toNat
  if 48 ≤ n && n ≤ 57 then some (n - 48)
  else if 65 ≤ n && n ≤ 70 then some (n - 55)
  else if 97 ≤ n && n ≤ 102 then some (n - 87)
  else none

def percentDecode : List Char → Bytes
  | [] => []
  | '%' :: a :: b :: rest =>
    match hexValue? a, hexValue? b with
    | some x, some y => UInt8.ofNat (x * 16 + y) :: percentDecode rest
    | _, _ => 37 :: percentDecode (a :: b :: rest)
  | c :: rest => String.utf8EncodeChar c ++ percentDecode rest

end LanguageClient.Uri
