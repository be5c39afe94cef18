import SchemaWriter.Datamodel.Basic
import SchemaWriter.Json.Printer

namespace SchemaWriter

def Json.ofOption {α : Type} (f : α → Json) : Option α → Json
  | none => .null
  | some value => f value

def Json.ofStrings (strings : List String) : Json :=
  .array (strings.map .string)

def FieldKind.name : FieldKind → String
  | .scalar => "scalar"
  | .enum => "enum"
  | .object => "object"
  | .unsupported => "unsupported"

def DefaultValue.toJson : DefaultValue → Json
  | .function name arguments =>
    .object [("name", .string name), ("args", .array (arguments.map (·.json)))]
  | .literal value => value.json

def Field.toJson (field : Field) : Json := .object [
  ("name", .string field.name),
  ("dbName", .ofOption .string field.dbName),
  ("kind", .string field.kind.name),
  ("type", .string field.type),
  ("isId", .bool field.isId),
  ("isRequired", .bool field.isRequired),
  ("isList", .bool field.isList),
  ("isUnique", .bool field.isUnique),
  ("isUpdatedAt", .bool field.isUpdatedAt),
  ("default", .ofOption DefaultValue.toJson field.defaultValue),
  ("documentation", .ofOption .string field.documentation),
  ("relationName", .ofOption .string field.relationName),
  ("relationFromFields", .ofStrings field.relationFromFields),
  ("relationToFields", .ofStrings field.relationToFields)]

def CompoundKey.toJson (key : CompoundKey) : Json := .object [
  ("name", .ofOption .string key.name),
  ("fields", .ofStrings key.fields)]

def Model.toJson (model : Model) : Json := .object [
  ("name", .string model.name),
  ("dbName", .ofOption .string model.dbName),
  ("fields", .array (model.fields.map Field.toJson)),
  ("primaryKey", .ofOption CompoundKey.toJson model.primaryKey),
  ("documentation", .ofOption .string model.documentation)]

def EnumValue.toJson (value : EnumValue) : Json := .object [
  ("name", .string value.name),
  ("dbName", .ofOption .string value.dbName)]

def EnumType.toJson (enum : EnumType) : Json := .object [
  ("name", .string enum.name),
  ("dbName", .ofOption .string enum.dbName),
  ("values", .array (enum.values.map EnumValue.toJson)),
  ("documentation", .ofOption .string enum.documentation)]

def Datamodel.toJson (datamodel : Datamodel) : Json := .object [
  ("models", .array (datamodel.models.map Model.toJson)),
  ("enums", .array (datamodel.enums.map EnumType.toJson))]

def Model.print (model : Model) : String :=
  model.toJson.render

def Datamodel.print (datamodel : Datamodel) : String :=
  datamodel.toJson.render

end SchemaWriter
