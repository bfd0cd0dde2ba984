import LanguageClient.Protocol.Position

namespace LanguageClient.Protocol

inductive Code
  | number (n : Int)
  | text (s : String)
  deriving DecidableEq, Repr

namespace Code

def read : Reader Code :=
  Reader.firstOf "NumberOrString"
    [fun j => (Reader.int32 j).map .number, fun j => (Reader.string j).map .text]

def toJson : Code → Json
  | .number n => .int n
  | .text s => .str s

end Code

structure RelatedInformation where
  location : Location
  message  : String
  deriving DecidableEq, Repr

namespace RelatedInformation

def fields : Fields RelatedInformation :=
  RelatedInformation.mk <$> Fields.required "location" Location.read
    <*> Fields.required "message" Reader.string

def read : Reader RelatedInformation := Fields.record "DiagnosticRelatedInformation" fields

def toJson (r : RelatedInformation) : Json :=
  .object [("location", r.location.toJson), ("message", .str r.message)]

end RelatedInformation

-- Severities are numbers, so that those of later servers can be kept.
abbrev Severity := Int

namespace Severity

def error : Severity := 1
def warning : Severity := 2
def information : Severity := 3
def hint : Severity := 4

end Severity

structure Diagnostic where
  range       : Range
  severity    : Option Severity
  code        : Option Code
  codeUri     : Option String
  source      : Option String
  message     : String
  related     : Option (List RelatedInformation)
  tags        : Option (List Int)
  data        : Option Json

namespace Diagnostic

def readCodeUri : Reader String := Fields.record "CodeDescription" (Fields.required "href" readUri)

def fields : Fields Diagnostic :=
  Diagnostic.mk <$> Fields.required "range" Range.read
    <*> Fields.optional "severity" Reader.int32 <*> Fields.optional "code" Code.read
    <*> Fields.optional "codeDescription" readCodeUri <*> Fields.optional "source" Reader.string
    <*> Fields.required "message" Reader.string
    <*> Fields.optional "relatedInformation" (Reader.list RelatedInformation.read)
    <*> Fields.optional "tags" (Reader.list Reader.int32) <*> Fields.optional "data" Reader.json

def read : Reader Diagnostic := Fields.record "Diagnostic" fields

def toJson (d : Diagnostic) : Json :=
  .objectOf
    [ ("range", some d.range.toJson),
      ("severity", d.severity.map .int),
      ("code", d.code.map Code.toJson),
      ("codeDescription", d.codeUri.map fun uri => .object [("href", .str uri)]),
      ("source", d.source.map .str),
      ("message", some (.str d.message)),
      ("relatedInformation", d.related.map fun rs => .arr (rs.map RelatedInformation.toJson)),
      ("tags", d.tags.map fun ts => .arr (ts.map .int)),
      ("data", d.data) ]

end Diagnostic

structure Publish where
  uri         : String
  diagnostics : List Diagnostic
  version     : Option Int

namespace Publish

def method : String := "textDocument/publishDiagnostics"

def fields : Fields Publish :=
  Publish.mk <$> Fields.required "uri" readUri
    <*> Fields.required "diagnostics" (Reader.list Diagnostic.read)
    <*> Fields.optional "version" Reader.int32

def read : Reader Publish := Fields.record "PublishDiagnosticsParams" fields

def toJson (p : Publish) : Json :=
  .objectOf
    [ ("uri", some (.str p.uri)),
      ("diagnostics", some (.arr (p.diagnostics.map Diagnostic.toJson))),
      ("version", p.version.map .int) ]

end Publish
end LanguageClient.Protocol
