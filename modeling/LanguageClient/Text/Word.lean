import LanguageClient.Text.Word.Table

namespace LanguageClient.Text

def isAsciiAlphanumeric (c : Char) : Bool :=
  ('a' ≤ c && c ≤ 'z') || ('A' ≤ c && c ≤ 'Z') || ('0' ≤ c && c ≤ '9')

def isAlphanumeric (c : Char) : Bool :=
  if c.toNat < 128 then isAsciiAlphanumeric c else wordRanges.contains c.toNat

def isWordChar (c : Char) : Bool :=
  c = '_' || isAlphanumeric c

def runsOf (p : Char → Bool) (cs : List Char) : List (List Char) :=
  (cs.splitOnP fun c => !p c).filter (· ≠ [])

end LanguageClient.Text
