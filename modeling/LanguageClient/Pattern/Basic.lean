import LanguageClient.Pattern.CharSet

namespace LanguageClient

-- What the characters before and behind a place may have to be. A line end is a line feed, or with
-- `anyLineEnd` also a carriage return, and both together are one.
inductive Assertion
  | startOfText
  | endOfText
  | startOfLine (anyLineEnd : Bool)
  | endOfLine (anyLineEnd : Bool)
  | wordBoundary
  | noWordBoundary
  | wordStart
  | wordEnd
  | notAfterWord
  | notBeforeWord
  deriving DecidableEq, Repr

namespace Assertion

def isWord (c? : Option Char) : Bool := c?.any Text.isWordChar

def holds (a : Assertion) (before after : Option Char) : Bool :=
  match a with
  | startOfText => before.isNone
  | endOfText => after.isNone
  | startOfLine anyLineEnd =>
    before.isNone || before = some '\n' || (anyLineEnd && before = some '\r' && after ≠ some '\n')
  | endOfLine anyLineEnd =>
    after.isNone || (anyLineEnd && after = some '\r')
      || (after = some '\n' && !(anyLineEnd && before = some '\r'))
  | wordBoundary => isWord before != isWord after
  | noWordBoundary => isWord before == isWord after
  | wordStart => !isWord before && isWord after
  | wordEnd => isWord before && !isWord after
  | notAfterWord => !isWord before
  | notBeforeWord => !isWord after

end Assertion

inductive Pattern
  | empty
  | set (s : CharSet)
  | look (a : Assertion)
  | seq (p q : Pattern)
  | either (p q : Pattern)
  | times (p : Pattern) (least : Nat) (most? : Option Nat)

namespace Pattern

def literal (c : Char) : Pattern := .set (.single c)

def seqOf (ps : List Pattern) : Pattern := ps.foldr .seq .empty

def oneOf (p : Pattern) (ps : List Pattern) : Pattern := ps.foldl .either p

def iterate (f : α → α) : Nat → α → α
  | 0, a => a
  | n + 1, a => iterate f n (f a)

def join (places more : List Nat) : List Nat :=
  places ++ more.filter (!places.contains ·)

-- The places where occurrences end that begin at some of the given places. Every repetition beyond
-- the length of the text can be left out or added where the pattern takes no character, so counts are
-- cut off there.
def ends (text : Array Char) : Pattern → List Nat → List Nat
  | empty, places => places
  | set s, places => (places.filter fun i => text[i]?.any s.mem).map (· + 1)
  | look a, places =>
    places.filter fun i => a.holds (if i = 0 then none else text[i - 1]?) text[i]?
  | seq p q, places => ends text q (ends text p places)
  | either p q, places => join (ends text p places) (ends text q places)
  | times p least most?, places =>
    let limit := text.size + 1
    let more := match most? with
      | none => limit
      | some most => min (most - least) limit
    let begun := iterate (ends text p) (min least limit) places
    iterate (fun places => join places (ends text p places)) more begun

def occursIn (p : Pattern) (text : String) : Bool :=
  let text := text.toList.toArray
  ends text p (List.range (text.size + 1)) ≠ []

end Pattern
end LanguageClient
