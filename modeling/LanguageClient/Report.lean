import LanguageClient.Protocol.Diagnostic
import LanguageClient.Text.Lines

namespace LanguageClient.Report
open Protocol

inductive Shade
  | red
  | yellow
  | blue
  | cyan
  | dim
  deriving DecidableEq, Repr

def Shade.code : Shade → List Char
  | .red => ['3', '1']
  | .yellow => ['3', '3']
  | .blue => ['3', '4']
  | .cyan => ['3', '6']
  | .dim => ['2']

def select (code : List Char) : List Char :=
  ['\x1b', '['] ++ code ++ ['m']

def paint (colored : Bool) (shade : Shade) (cs : List Char) : List Char :=
  if colored then select shade.code ++ cs ++ select ['0'] else cs

def severityName (severity : Option Severity) : List Char :=
  (match severity with
  | some 1 => "error"
  | some 2 => "warning"
  | some 3 => "info"
  | some 4 => "hint"
  | _ => "note").toList

def severityShade? : Option Severity → Option Shade
  | some 1 => some .red
  | some 2 => some .yellow
  | some 3 => some .blue
  | some 4 => some .dim
  | _ => none

def severityLabel (colored : Bool) (severity : Option Severity) : List Char :=
  match severityShade? severity with
  | some shade => paint colored shade (severityName severity)
  | none => severityName severity

-- The text in at most `max` characters. Dots stand for what is cut off, and a width of three or less
-- has room for dots only.
def truncate (max : Nat) (cs : List Char) : List Char :=
  if max ≤ 3 then List.replicate max '.'
  else if cs.length ≤ max then cs
  else cs.take (max - 3) ++ ['.', '.', '.']

-- Lines and columns are counted from one, in 32 bits.
def ordinal (n : Nat) : Nat := (n + 1) % UInt32.size

def place (path : List Char) (d : Diagnostic) : List Char :=
  path ++ ':' :: (toString (ordinal d.range.first.line)).toList
    ++ ':' :: (toString (ordinal d.range.first.character)).toList

def codeLabel : Option Code → List Char
  | some (.number n) => '[' :: (toString n).toList ++ [']']
  | some (.text s) => '[' :: s.toList ++ [']']
  | none => []

def separator : List Char := [':', ' ']

-- The first line of a message, cut to what `width` leaves behind the place. A width that leaves
-- nothing, such as `0`, cuts nothing.
def summary (width : Nat) (place message : List Char) : List Char :=
  let message := (Text.lines message).headD []
  let taken := Utf8.size (place ++ separator)
  if width > taken then truncate (width - taken) message else message

def line (colored : Bool) (width : Nat) (path : List Char) (d : Diagnostic) : List Char :=
  let place := place path d
  paint colored .cyan place ++ separator ++ severityLabel colored d.severity
    ++ paint colored .dim (codeLabel d.code) ++ separator ++ summary width place d.message.toList

end LanguageClient.Report
