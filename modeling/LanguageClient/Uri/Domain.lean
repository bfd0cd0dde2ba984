import LanguageClient.Text.Lines
import LanguageClient.Uri.Domain.Composition
import LanguageClient.Uri.Domain.Label
import LanguageClient.Uri.Domain.Mapping
import LanguageClient.Uri.Domain.Punycode

namespace LanguageClient.Uri.Domain

def isForbidden (c : Char) : Bool :=
  c.toNat ≤ 32 || c.toNat = 127 || "%#/:<>?@[\\]^|".toList.contains c

def marker : List Char := ['x', 'n', '-', '-']

def isAscii (cs : List Char) : Bool := cs.all (·.toNat < 128)

-- The characters that a label of a mapped name stands for. Punycode must stand for a label that
-- needs it, in normal form.
def shownLabel (label : List Char) : Option (List Char) :=
  if label.take 4 = marker then
    if label.length > 2000 then none
    else
      match Punycode.decode? (label.drop 4) with
      | none => none
      | some cs =>
        if isAscii cs || cs.any isForbidden || cs.any (fun c => mapped c ≠ some [c]) || normal cs ≠ cs
        then none
        else some cs
  else some label

def asciiLabel (label : List Char) : Option (List Char) :=
  if isAscii label then some label
  else if label.length > 1000 then none
  else some (marker ++ Punycode.encode label)

-- The name in ASCII, if it is a domain name. Empty labels are allowed.
def toAscii (name : List Char) : Option (List Char) := do
  let cs := normal (← name.mapM mapped).flatten
  if cs.any isForbidden then none
  let labels := Text.split '.' cs
  let shown ← labels.mapM shownLabel
  let codes := shown.map (·.map Char.toNat)
  if !codes.all isWellFormed then none
  if codes.any isBidirectional && !codes.all directionsFit then none
  let ascii ← labels.mapM asciiLabel
  return ['.'].intercalate ascii

end LanguageClient.Uri.Domain
