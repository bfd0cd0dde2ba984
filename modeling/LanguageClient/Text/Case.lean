namespace LanguageClient.Text

def lowerAscii (c : Char) : Char :=
  if 'A' ≤ c ∧ c ≤ 'Z' then Char.ofNat (c.toNat + 32) else c

def lowerByte (b : UInt8) : UInt8 :=
  if 65 ≤ b ∧ b ≤ 90 then b + 32 else b

-- The character in lower case, if that is an ASCII letter. Only the Kelvin sign has such a lower case
-- without being an ASCII letter itself.
def lowerToAscii (c : Char) : Char :=
  if c = '\u212a' then 'k' else lowerAscii c

def sameAscii (a b : List Char) : Bool :=
  a.map lowerAscii = b.map lowerAscii

end LanguageClient.Text
