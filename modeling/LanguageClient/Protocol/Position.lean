import LanguageClient.Json.Reading
import LanguageClient.Uri.Reference

namespace LanguageClient.Protocol

structure Position where
  line      : Nat
  character : Nat
  deriving DecidableEq, Repr

namespace Position

def fields : Fields Position :=
  Position.mk <$> Fields.required "line" Reader.nat32 <*> Fields.required "character" Reader.nat32

def read : Reader Position := Fields.record "Position" fields

def toJson (p : Position) : Json :=
  .object [("line", .nat p.line), ("character", .nat p.character)]

end Position

structure Range where
  first : Position
  last  : Position
  deriving DecidableEq, Repr

namespace Range

def fields : Fields Range :=
  Range.mk <$> Fields.required "start" Position.read <*> Fields.required "end" Position.read

def read : Reader Range := Fields.record "Range" fields

def toJson (r : Range) : Json :=
  .object [("start", r.first.toJson), ("end", r.last.toJson)]

end Range

def readUri : Reader String := fun j =>
  match Reader.string j with
  | .error e => .error e
  | .ok s =>
    match Uri.Reference.check s.toList with
    | .error fault => .error (.rejected fault.message)
    | .ok _ => .ok s

structure Location where
  uri   : String
  range : Range
  deriving DecidableEq, Repr

namespace Location

def fields : Fields Location :=
  Location.mk <$> Fields.required "uri" readUri <*> Fields.required "range" Range.read

def read : Reader Location := Fields.record "Location" fields

def toJson (l : Location) : Json :=
  .object [("uri", .str l.uri), ("range", l.range.toJson)]

end Location
end LanguageClient.Protocol
