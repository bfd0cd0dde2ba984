namespace LanguageClient.Text

inductive CountFault
  | empty
  | notDigit
  | tooLarge
  deriving DecidableEq, Repr

def CountFault.message : CountFault → String
  | .empty => "cannot parse integer from empty string"
  | .notDigit => "invalid digit found in string"
  | .tooLarge => "number too large to fit in target type"

-- A character that is no digit counts before a value that has become too large at the same place.
def countFrom (limit : Nat) (n : Nat) : List Char → Except CountFault Nat
  | [] => .ok n
  | c :: cs =>
    if !c.isDigit then .error .notDigit
    else
      let m := n * 10 + (c.toNat - 48)
      if m < limit then countFrom limit m cs else .error .tooLarge

def readCount (limit : Nat) : List Char → Except CountFault Nat
  | [] => .error .empty
  | ['+'] => .error .notDigit
  | '+' :: cs => countFrom limit 0 cs
  | cs => countFrom limit 0 cs

end LanguageClient.Text
