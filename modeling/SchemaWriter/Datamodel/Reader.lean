import SchemaWriter.Datamodel.Basic
import SchemaWriter.Json.Record

namespace SchemaWriter

open SchemaWriter.Json

def FieldKind.known : List (String × FieldKind) := [
  ("scalar", .scalar), ("enum", .enum), ("object", .object), ("unsupported", .unsupported)]

def DefaultValue.ofMembers (members : List (String × Ordered)) : DefaultValue :=
  match members.filter (·.1 = "name"), members.filter (·.1 = "args") with
  | [(_, ⟨.string name, _⟩)], [] => .function name []
  | [(_, ⟨.string name, _⟩)], [(_, ⟨.array _, sorted⟩)] => .function name sorted.items
  | _, _ => .literal (.object members)

def DefaultValue.decoder : Decoder DefaultValue
  | depth + 1, .object members => match Draft.jsonMembers? depth members with
    | some members => .ok (.ofMembers members)
    | none => .error .malformed
  | depth, draft => return .literal (← Decoder.json depth draft)

def Field.record : Record Field where
  name := "Field"
  strict := false
  start := { name := "", type := "" }
  slots := [
    .of "name" .required .string fun name field => { field with name },
    .of "dbName" .defaulted (.option .string) fun dbName field => { field with dbName },
    .of "kind" .defaulted (.variant FieldKind.known) fun kind field => { field with kind },
    .of "type" .required .string fun type field => { field with type },
    .of "isId" .defaulted .bool fun isId field => { field with isId },
    .of "isRequired" .defaulted .bool fun isRequired field => { field with isRequired },
    .of "isList" .defaulted .bool fun isList field => { field with isList },
    .of "isUnique" .defaulted .bool fun isUnique field => { field with isUnique },
    .of "isUpdatedAt" .defaulted .bool fun isUpdatedAt field => { field with isUpdatedAt },
    .of "default" .defaulted (.option DefaultValue.decoder)
      fun defaultValue field => { field with defaultValue },
    .of "documentation" .defaulted (.option .string)
      fun documentation field => { field with documentation },
    .of "relationName" .defaulted (.option .string)
      fun relationName field => { field with relationName },
    .of "relationFromFields" .defaulted (.list .string)
      fun relationFromFields field => { field with relationFromFields },
    .of "relationToFields" .defaulted (.list .string)
      fun relationToFields field => { field with relationToFields }]

def CompoundKey.record : Record CompoundKey where
  name := "CompoundKey"
  strict := false
  start := { fields := [] }
  slots := [
    .of "name" .defaulted (.option .string) fun name key => { key with name },
    .of "fields" .required (.list .string) fun fields key => { key with fields }]

def Model.record : Record Model where
  name := "Model"
  strict := false
  start := { name := "" }
  slots := [
    .of "name" .required .string fun name model => { model with name },
    .of "dbName" .defaulted (.option .string) fun dbName model => { model with dbName },
    .of "fields" .defaulted (.list Field.record.decoder) fun fields model => { model with fields },
    .of "primaryKey" .defaulted (.option CompoundKey.record.decoder)
      fun primaryKey model => { model with primaryKey },
    .of "documentation" .defaulted (.option .string)
      fun documentation model => { model with documentation }]

def EnumValue.record : Record EnumValue where
  name := "EnumValue"
  strict := false
  start := { name := "" }
  slots := [
    .of "name" .required .string fun name value => { value with name },
    .of "dbName" .defaulted (.option .string) fun dbName value => { value with dbName }]

def EnumType.record : Record EnumType where
  name := "Enum"
  strict := false
  start := { name := "" }
  slots := [
    .of "name" .required .string fun name enum => { enum with name },
    .of "dbName" .defaulted (.option .string) fun dbName enum => { enum with dbName },
    .of "values" .defaulted (.list EnumValue.record.decoder)
      fun values enum => { enum with values },
    .of "documentation" .defaulted (.option .string)
      fun documentation enum => { enum with documentation }]

def Datamodel.record : Record Datamodel where
  name := "Datamodel"
  strict := false
  start := {}
  slots := [
    .of "models" .defaulted (.list Model.record.decoder)
      fun models datamodel => { datamodel with models },
    .of "enums" .defaulted (.list EnumType.record.decoder)
      fun enums datamodel => { datamodel with enums }]

def Datamodel.parse (text : String) : Except Fault Datamodel :=
  Decoder.text Datamodel.record.decoder (glyphs text)

end SchemaWriter
