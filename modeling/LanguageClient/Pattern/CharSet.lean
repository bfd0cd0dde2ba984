import LanguageClient.Text.Blank
import LanguageClient.Text.Case
import LanguageClient.Text.Word

namespace LanguageClient

inductive CharSet
  | none
  | range (low high : Char)
  | satisfying (p : Char → Bool)
  | complement (s : CharSet)
  | union (s t : CharSet)
  | inter (s t : CharSet)
  | folded (s : CharSet)

namespace CharSet

-- The two characters beside the letters of ASCII that have such a letter in the other case.
def foldings : List (Char × Char) := [('k', '\u212a'), ('s', '\u017f')]

def caseVariants (c : Char) : List Char :=
  let low := match foldings.find? (·.2 = c) with
    | some (letter, _) => letter
    | .none => Text.lowerAscii c
  if 'a' ≤ low && low ≤ 'z' then
    low :: Char.ofNat (low.toNat - 32) :: (foldings.filter (·.1 = low)).map (·.2)
  else [c]

def mem : CharSet → Char → Bool
  | none, _ => false
  | range low high, c => low ≤ c && c ≤ high
  | satisfying p, c => p c
  | complement s, c => !s.mem c
  | union s t, c => s.mem c || t.mem c
  | inter s t, c => s.mem c && t.mem c
  | folded s, c => (caseVariants c).any s.mem

def single (c : Char) : CharSet := .range c c

def diff (s t : CharSet) : CharSet := .inter s (.complement t)

def symmDiff (s t : CharSet) : CharSet := .union (diff s t) (diff t s)

def negatedIf (negated : Bool) (s : CharSet) : CharSet :=
  if negated then .complement s else s

def ofRanges (ranges : List (Char × Char)) : CharSet :=
  ranges.foldr (fun (low, high) s => .union (.range low high) s) .none

def digit : CharSet := .range '0' '9'

def lower : CharSet := .range 'a' 'z'

def upper : CharSet := .range 'A' 'Z'

def punctuation : CharSet := ofRanges [('!', '/'), (':', '@'), ('[', '`'), ('\x7b', '~')]

def ascii? : String → Option CharSet
  | "alnum" => some (.satisfying Text.isAsciiAlphanumeric)
  | "alpha" => some (.union lower upper)
  | "ascii" => some (.range '\x00' '\x7f')
  | "blank" => some (.union (single '\t') (single ' '))
  | "cntrl" => some (.union (.range '\x00' '\x1f') (single '\x7f'))
  | "digit" => some digit
  | "graph" => some (.range '!' '~')
  | "lower" => some lower
  | "print" => some (.range ' ' '~')
  | "punct" => some punctuation
  | "space" => some (.union (.range '\t' '\r') (single ' '))
  | "upper" => some upper
  | "word" => some (.union (.satisfying Text.isAsciiAlphanumeric) (single '_'))
  | "xdigit" => some (ofRanges [('0', '9'), ('A', 'F'), ('a', 'f')])
  | _ => .none

structure Property where
  names : List String
  set   : CharSet

def chosen (s : String) : CharSet := .satisfying s.toList.contains

def categories : List Property :=
  let letter := CharSet.union lower upper
  let control := CharSet.union (.range '\x00' '\x1f') (single '\x7f')
  let opening := chosen "([\x7b"
  let closing := chosen ")]\x7d"
  let otherMark := chosen "!\"#%&'*,./:;?@\\"
  let math := chosen "+<=>|~"
  [ ⟨["any"], .complement .none⟩,
    ⟨["assigned"], .complement .none⟩,
    ⟨["ascii"], .range '\x00' '\x7f'⟩,
    ⟨["c", "other"], control⟩,
    ⟨["cc", "control", "cntrl"], control⟩,
    ⟨["cf", "format"], .none⟩,
    ⟨["cn", "unassigned"], .none⟩,
    ⟨["co", "privateuse"], .none⟩,
    ⟨["l", "letter"], letter⟩,
    ⟨["lc", "casedletter"], letter⟩,
    ⟨["ll", "lowercaseletter"], lower⟩,
    ⟨["lm", "modifierletter"], .none⟩,
    ⟨["lo", "otherletter"], .none⟩,
    ⟨["lt", "titlecaseletter"], .none⟩,
    ⟨["lu", "uppercaseletter"], upper⟩,
    ⟨["m", "mark", "combiningmark"], .none⟩,
    ⟨["mc", "spacingmark"], .none⟩,
    ⟨["me", "enclosingmark"], .none⟩,
    ⟨["mn", "nonspacingmark"], .none⟩,
    ⟨["n", "number"], digit⟩,
    ⟨["nd", "decimalnumber", "digit"], digit⟩,
    ⟨["nl", "letternumber"], .none⟩,
    ⟨["no", "othernumber"], .none⟩,
    ⟨["p", "punctuation", "punct"],
      .union (.union opening closing) (.union otherMark (chosen "-_"))⟩,
    ⟨["pc", "connectorpunctuation"], single '_'⟩,
    ⟨["pd", "dashpunctuation"], single '-'⟩,
    ⟨["pe", "closepunctuation"], closing⟩,
    ⟨["pf", "finalpunctuation"], .none⟩,
    ⟨["pi", "initialpunctuation"], .none⟩,
    ⟨["po", "otherpunctuation"], otherMark⟩,
    ⟨["ps", "openpunctuation"], opening⟩,
    ⟨["s", "symbol"], .union math (chosen "$^`")⟩,
    ⟨["sc", "currencysymbol"], single '$'⟩,
    ⟨["sk", "modifiersymbol"], chosen "^`"⟩,
    ⟨["sm", "mathsymbol"], math⟩,
    ⟨["so", "othersymbol"], .none⟩,
    ⟨["z", "separator"], single ' '⟩,
    ⟨["zl", "lineseparator"], .none⟩,
    ⟨["zp", "paragraphseparator"], .none⟩,
    ⟨["zs", "spaceseparator"], single ' '⟩ ]

-- Scripts. All but two of them have no character in ASCII.
def scripts : List Property :=
  let letter := CharSet.union lower upper
  let others :=
    [["arabic", "arab"], ["armenian", "armn"], ["bengali", "beng"], ["bopomofo", "bopo"],
     ["braille", "brai"], ["cherokee", "cher"], ["coptic", "copt", "qaac"], ["cyrillic", "cyrl"],
     ["devanagari", "deva"], ["ethiopic", "ethi"], ["georgian", "geor"], ["gothic", "goth"],
     ["greek", "grek"], ["gujarati", "gujr"], ["gurmukhi", "guru"], ["han", "hani"],
     ["hangul", "hang"], ["hebrew", "hebr"], ["hiragana", "hira"], ["inherited", "zinh", "qaai"],
     ["kannada", "knda"], ["katakana", "kana"], ["khmer", "khmr"], ["lao", "laoo"],
     ["malayalam", "mlym"], ["mongolian", "mong"], ["myanmar", "mymr"], ["oriya", "orya"],
     ["runic", "runr"], ["sinhala", "sinh"], ["syriac", "syrc"], ["tamil", "taml"],
     ["telugu", "telu"], ["thaana", "thaa"], ["thai"], ["tibetan", "tibt"], ["yi", "yiii"]]
  ⟨["latin", "latn"], letter⟩ :: ⟨["common", "zyyy"], .inter (.range '\x00' '\x7f') (.complement letter)⟩
    :: others.map (⟨·, .none⟩)

def binaryProperties : List Property :=
  let letter := CharSet.union lower upper
  let hex := ofRanges [('0', '9'), ('A', 'F'), ('a', 'f')]
  [ ⟨["alphabetic", "alpha"], letter⟩,
    ⟨["uppercase", "upper"], upper⟩,
    ⟨["lowercase", "lower"], lower⟩,
    ⟨["whitespace", "wspace", "space"], .satisfying Text.isBlank⟩,
    ⟨["asciihexdigit", "ahex"], hex⟩,
    ⟨["hexdigit", "hex"], hex⟩,
    ⟨["cased"], letter⟩,
    ⟨["caseignorable", "ci"], chosen "'.:^`"⟩,
    ⟨["dash"], single '-'⟩,
    ⟨["emoji"], .union digit (chosen "#*")⟩,
    ⟨["idstart", "ids"], letter⟩,
    ⟨["idcontinue", "idc"], .union letter (.union digit (single '_'))⟩,
    ⟨["xidstart", "xids"], letter⟩,
    ⟨["xidcontinue", "xidc"], .union letter (.union digit (single '_'))⟩,
    ⟨["math"], chosen "+<=>|~^"⟩,
    ⟨["quotationmark", "qmark"], chosen "\"'"⟩,
    ⟨["ideographic", "ideo"], .none⟩,
    ⟨["diacritic", "dia"], chosen "^`"⟩ ]

-- Names count without their case, blanks, dashes and low lines, and without `is` in front.
def plainName (name : String) : String :=
  let kept := name.toList.filter fun c =>
    c.toNat < 128 && c ≠ '_' && c ≠ '-' && !Text.isBlank c
  match kept.map Text.lowerAscii with
  | ['i', 's', 'c'] => "isc"
  | 'i' :: 's' :: rest => String.ofList rest
  | cs => String.ofList cs

def find? (properties : List Property) (name : String) : Option CharSet :=
  (properties.find? fun p => p.names.contains (plainName name)).map (·.set)

def property? (name : String) : Option CharSet :=
  find? (categories ++ binaryProperties ++ scripts) name

def valuesOf? (property : String) : Option (List Property) :=
  match plainName property with
  | "gc" | "generalcategory" => some categories
  | "sc" | "script" | "scx" | "scriptextensions" => some scripts
  | _ => .none

end CharSet
end LanguageClient
