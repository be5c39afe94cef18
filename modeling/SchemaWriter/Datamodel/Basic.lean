import SchemaWriter.Json.Basic

namespace SchemaWriter

inductive FieldKind where
  | scalar
  | enum
  | object
  | unsupported
  deriving DecidableEq, Repr

inductive Scalar where
  | int
  | float
  | string
  | boolean
  | dateTime
  | decimal
  | bigInt
  | json
  | bytes
  deriving DecidableEq, Repr

def Scalar.ofName? : String → Option Scalar
  | "Int" => some .int
  | "Float" => some .float
  | "String" => some .string
  | "Boolean" => some .boolean
  | "DateTime" => some .dateTime
  | "Decimal" => some .decimal
  | "BigInt" => some .bigInt
  | "Json" => some .json
  | "Bytes" => some .bytes
  | _ => none

inductive DefaultValue where
  | function (name : String) (arguments : List Json.Ordered)
  | literal (value : Json.Ordered)
  deriving Repr

structure Field where
  name : String
  dbName : Option String := none
  kind : FieldKind := .scalar
  type : String
  isId : Bool := false
  isRequired : Bool := false
  isList : Bool := false
  isUnique : Bool := false
  isUpdatedAt : Bool := false
  defaultValue : Option DefaultValue := none
  documentation : Option String := none
  relationName : Option String := none
  relationFromFields : List String := []
  relationToFields : List String := []
  deriving Repr

inductive ColumnType where
  | scalar (scalar : Scalar)
  | enum
  | unsupported
  deriving DecidableEq, Repr

structure Relation where
  name : String
  isList : Bool
  fromFields : List String
  toFields : List String
  related : String
  deriving DecidableEq, Repr

def Relation.isHolder (r : Relation) : Bool :=
  !r.fromFields.isEmpty && !r.toFields.isEmpty

namespace Field

def columnName (field : Field) : String :=
  field.dbName.getD field.name

def isRelation (field : Field) : Bool :=
  field.kind = .object

def columnType? (field : Field) : Option ColumnType :=
  match field.kind with
  | .scalar => match Scalar.ofName? field.type with
    | some scalar => some (.scalar scalar)
    | none => some .unsupported
  | .enum => some .enum
  | .unsupported => some .unsupported
  | .object => none

def relation (field : Field) : Relation where
  name := field.relationName.getD ""
  isList := field.isList
  fromFields := field.relationFromFields
  toFields := field.relationToFields
  related := field.type

def relation? (field : Field) : Option Relation :=
  if field.isRelation then some field.relation else none

end Field

structure CompoundKey where
  name : Option String := none
  fields : List String
  deriving DecidableEq, Repr

structure Model where
  name : String
  dbName : Option String := none
  fields : List Field := []
  primaryKey : Option CompoundKey := none
  documentation : Option String := none
  deriving Repr

namespace Model

def tableName (model : Model) : String :=
  model.dbName.getD model.name

def field? (model : Model) (name : String) : Option Field :=
  model.fields.find? (·.name = name)

def columns (model : Model) : List Field :=
  model.fields.filter (!·.isRelation)

def relationFields (model : Model) : List Field :=
  model.fields.filter (·.isRelation)

def idField? (model : Model) : Option Field :=
  match model.fields.filter (·.isId) with
  | [field] => some field
  | _ => none

def hasColumn (model : Model) (name : String) : Bool :=
  (model.field? name).any (!·.isRelation)

end Model

structure EnumValue where
  name : String
  dbName : Option String := none
  deriving DecidableEq, Repr

def EnumValue.stored (value : EnumValue) : String :=
  value.dbName.getD value.name

structure EnumType where
  name : String
  dbName : Option String := none
  values : List EnumValue := []
  documentation : Option String := none
  deriving DecidableEq, Repr

def EnumType.typeName (enum : EnumType) : String :=
  enum.dbName.getD enum.name

structure Datamodel where
  models : List Model := []
  enums : List EnumType := []
  deriving Repr

def findModel? (models : List Model) (name : String) : Option Model :=
  models.find? (·.name = name)

end SchemaWriter
