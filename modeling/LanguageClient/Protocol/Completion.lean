import LanguageClient.Protocol.Position

namespace LanguageClient.Protocol

structure LabelDetails where
  detail      : Option String
  description : Option String
  deriving DecidableEq, Repr

namespace LabelDetails

def fields : Fields LabelDetails :=
  LabelDetails.mk <$> Fields.optional "detail" Reader.string
    <*> Fields.optional "description" Reader.string

def read : Reader LabelDetails := Fields.record "CompletionItemLabelDetails" fields

def toJson (d : LabelDetails) : Json :=
  .objectOf [("detail", d.detail.map .str), ("description", d.description.map .str)]

end LabelDetails

inductive Documentation
  | text (s : String)
  | markup (kind value : String)
  deriving DecidableEq, Repr

namespace Documentation

def formatName? : Json → Option String
  | .str s => some s
  | .obj [(s, .null)] => some s
  | _ => none

def readFormat : Reader String := fun j =>
  match formatName? j with
  | some "plaintext" => .ok "plaintext"
  | some "markdown" => .ok "markdown"
  | _ => .error (.noVariant "MarkupKind")

def readMarkup : Reader Documentation :=
  Fields.record "MarkupContent" <|
    Documentation.markup <$> Fields.required "kind" readFormat
      <*> Fields.required "value" Reader.string

def read : Reader Documentation :=
  Reader.firstOf "Documentation" [fun j => (Reader.string j).map .text, readMarkup]

def toJson : Documentation → Json
  | .text s => .str s
  | .markup kind value => .object [("kind", .str kind), ("value", .str value)]

end Documentation

structure TextEdit where
  range   : Range
  newText : String
  deriving DecidableEq, Repr

namespace TextEdit

def fields : Fields TextEdit :=
  TextEdit.mk <$> Fields.required "range" Range.read <*> Fields.required "newText" Reader.string

def read : Reader TextEdit := Fields.record "TextEdit" fields

def toJson (e : TextEdit) : Json :=
  .object [("range", e.range.toJson), ("newText", .str e.newText)]

end TextEdit

inductive CompletionEdit
  | replace (edit : TextEdit)
  | choice (newText : String) (insert replace : Range)
  deriving DecidableEq, Repr

namespace CompletionEdit

def readChoice : Reader CompletionEdit :=
  Fields.record "InsertReplaceEdit" <|
    CompletionEdit.choice <$> Fields.required "newText" Reader.string
      <*> Fields.required "insert" Range.read <*> Fields.required "replace" Range.read

def read : Reader CompletionEdit :=
  Reader.firstOf "CompletionTextEdit" [fun j => (TextEdit.read j).map .replace, readChoice]

def toJson : CompletionEdit → Json
  | .replace edit => edit.toJson
  | .choice newText inserted replaced =>
    .object [("newText", .str newText), ("insert", inserted.toJson), ("replace", replaced.toJson)]

end CompletionEdit

structure Command where
  title     : String
  command   : String
  arguments : Option (List Json)

namespace Command

def fields : Fields Command :=
  Command.mk <$> Fields.required "title" Reader.string <*> Fields.required "command" Reader.string
    <*> Fields.optional "arguments" (Reader.list Reader.json)

def read : Reader Command := Fields.record "Command" fields

def toJson (c : Command) : Json :=
  .objectOf [("title", some (.str c.title)), ("command", some (.str c.command)),
    ("arguments", c.arguments.map .arr)]

end Command

structure CompletionItem where
  label               : String
  labelDetails        : Option LabelDetails
  kind                : Option Int
  detail              : Option String
  documentation       : Option Documentation
  deprecated          : Option Bool
  preselect           : Option Bool
  sortText            : Option String
  filterText          : Option String
  insertText          : Option String
  insertTextFormat    : Option Int
  insertTextMode      : Option Int
  textEdit            : Option CompletionEdit
  additionalTextEdits : Option (List TextEdit)
  command             : Option Command
  commitCharacters    : Option (List String)
  data                : Option Json
  tags                : Option (List Int)

namespace CompletionItem

def fields : Fields CompletionItem :=
  CompletionItem.mk <$> Fields.required "label" Reader.string
    <*> Fields.optional "labelDetails" LabelDetails.read <*> Fields.optional "kind" Reader.int32
    <*> Fields.optional "detail" Reader.string
    <*> Fields.optional "documentation" Documentation.read
    <*> Fields.optional "deprecated" Reader.bool <*> Fields.optional "preselect" Reader.bool
    <*> Fields.optional "sortText" Reader.string <*> Fields.optional "filterText" Reader.string
    <*> Fields.optional "insertText" Reader.string
    <*> Fields.optional "insertTextFormat" Reader.int32
    <*> Fields.optional "insertTextMode" Reader.int32
    <*> Fields.optional "textEdit" CompletionEdit.read
    <*> Fields.optional "additionalTextEdits" (Reader.list TextEdit.read)
    <*> Fields.optional "command" Command.read
    <*> Fields.optional "commitCharacters" (Reader.list Reader.string)
    <*> Fields.optional "data" Reader.json <*> Fields.optional "tags" (Reader.list Reader.int32)

def read : Reader CompletionItem := Fields.record "CompletionItem" fields

def toJson (c : CompletionItem) : Json :=
  .objectOf
    [ ("label", some (.str c.label)),
      ("labelDetails", c.labelDetails.map LabelDetails.toJson),
      ("kind", c.kind.map .int),
      ("detail", c.detail.map .str),
      ("documentation", c.documentation.map Documentation.toJson),
      ("deprecated", c.deprecated.map .bool),
      ("preselect", c.preselect.map .bool),
      ("sortText", c.sortText.map .str),
      ("filterText", c.filterText.map .str),
      ("insertText", c.insertText.map .str),
      ("insertTextFormat", c.insertTextFormat.map .int),
      ("insertTextMode", c.insertTextMode.map .int),
      ("textEdit", c.textEdit.map CompletionEdit.toJson),
      ("additionalTextEdits", c.additionalTextEdits.map fun es => .arr (es.map TextEdit.toJson)),
      ("command", c.command.map Command.toJson),
      ("commitCharacters", c.commitCharacters.map fun cs => .arr (cs.map .str)),
      ("data", c.data),
      ("tags", c.tags.map fun ts => .arr (ts.map .int)) ]

end CompletionItem

def completionItems : Reader (List CompletionItem)
  | .null => .ok []
  | .obj members =>
    Reader.list CompletionItem.read ((Members.get? "items" members).getD (.obj members))
  | j => Reader.list CompletionItem.read j

end LanguageClient.Protocol
