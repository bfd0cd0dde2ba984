import LanguageClient.Text.Lines

namespace LanguageClient.CommandLine

structure Choice where
  name    : String
  letter? : Option Char
  valued  : Bool
  repeats : Bool
  deriving DecidableEq, Repr

def switch (name : String) : Choice := ⟨name, none, false, false⟩

def valued (name : String) : Choice := ⟨name, none, true, false⟩

def lettered (name : String) (letter : Char) : Choice := ⟨name, some letter, true, false⟩

def repeated (name : String) : Choice := ⟨name, none, true, true⟩

structure Arguments where
  given    : List (String × String)
  operands : List String
  deriving DecidableEq, Repr

namespace Arguments

def empty : Arguments := ⟨[], []⟩

def has (a : Arguments) (name : String) : Bool := a.given.any (·.1 = name)

def values (a : Arguments) (name : String) : List String :=
  (a.given.filter (·.1 = name)).map (·.2)

def value? (a : Arguments) (name : String) : Option String := (a.values name).getLast?

def add? (a : Arguments) (choice : Choice) (value : String) : Option Arguments :=
  if a.has choice.name && !choice.repeats then none
  else some { a with given := a.given ++ [(choice.name, value)] }

end Arguments

inductive Token
  | endOfOptions
  | long (name : List Char) (value? : Option (List Char))
  | short (letter : Char) (rest : List Char)
  | operand

def tokenOf (argument : String) : Token :=
  match argument.toList with
  | ['-', '-'] => .endOfOptions
  | '-' :: '-' :: cs =>
    match Text.cut? '=' cs with
    | some (name, value) => .long name (some value)
    | none => .long cs none
  | '-' :: c :: cs => .short c cs
  | _ => .operand

def choiceOf? (choices : List Choice) : Token → Option (Choice × Option String)
  | .long name value? =>
    (choices.find? (·.name = String.ofList name)).map fun choice =>
      (choice, value?.map String.ofList)
  | .short letter rest =>
    (choices.find? (·.letter? = some letter)).map fun choice =>
      let value := if rest.head? = some '=' then rest.drop 1 else rest
      (choice, if rest = [] then none else some (String.ofList value))
  | .endOfOptions | .operand => none

-- Sorts the arguments; nothing comes of them if an option is unknown, lacks its value or has one too
-- many. With `command` the first operand ends the options, and what follows it is left over.
def sort? (choices : List Choice) (command : Bool) (acc : Arguments) :
    List String → Option (Arguments × List String)
  | [] => some (acc, [])
  | argument :: rest =>
    match tokenOf argument with
    | .endOfOptions =>
      if command && rest ≠ [] then none
      else some ({ acc with operands := acc.operands ++ rest }, [])
    | .operand =>
      if command then some ({ acc with operands := [argument] }, rest)
      else sort? choices command { acc with operands := acc.operands ++ [argument] } rest
    | token =>
      match choiceOf? choices token with
      | none => none
      | some (choice, some value) =>
        if choice.valued then
          match acc.add? choice value with
          | some acc => sort? choices command acc rest
          | none => none
        else none
      | some (choice, none) =>
        if choice.valued then
          match rest with
          | [] => none
          | value :: rest =>
            match tokenOf value, acc.add? choice value with
            | .operand, some acc => sort? choices command acc rest
            | _, _ => none
        else
          match acc.add? choice "" with
          | some acc => sort? choices command acc rest
          | none => none

end LanguageClient.CommandLine
