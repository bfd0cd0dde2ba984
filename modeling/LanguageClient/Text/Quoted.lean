import LanguageClient.Text.Quoted.Marks
import LanguageClient.Text.Quoted.Hidden

namespace LanguageClient.Text

def lowerHex (n : Nat) : List Char :=
  Nat.toDigits 16 n

-- A character that stands for itself in a quoted text. The space is the only separator that does.
def isShown (c : Char) : Bool :=
  let n := c.toNat
  if n < 127 then n ≥ 32 else !extenders.contains n && !hidden.contains n

def quotedChar (c : Char) : List Char :=
  match c with
  | '"' => ['\\', '"']
  | '\\' => ['\\', '\\']
  | '\n' => ['\\', 'n']
  | '\r' => ['\\', 'r']
  | '\t' => ['\\', 't']
  | '\x00' => ['\\', '0']
  | c => if isShown c then [c] else ['\\', 'u', '\x7b'] ++ lowerHex c.toNat ++ ['\x7d']

def quoted (s : String) : String :=
  String.ofList ('"' :: s.toList.flatMap quotedChar ++ ['"'])

end LanguageClient.Text
