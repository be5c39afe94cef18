import SchemaWriter.Config
import SchemaWriter.Relation.ManyToMany

namespace SchemaWriter

structure Schema where
  config : Config
  models : List Model
  joins : List Model
  enums : List EnumType
  deriving Repr

namespace Schema

def allModels (schema : Schema) : List Model :=
  schema.models ++ schema.joins

def findModel? (schema : Schema) (name : String) : Option Model :=
  SchemaWriter.findModel? schema.allModels name

def connects (a b : String) (model : Model) (field : Field) : Bool :=
  (model.name = a && field.type = b) || (model.name = b && field.type = a)

def relationNames (schema : Schema) (a b : String) : List String :=
  schema.allModels.flatMap fun model =>
    (model.relationFields.filter (connects a b model)).map (·.relation.name)

def relationCount (schema : Schema) (a b : String) : Nat :=
  (schema.relationNames a b).eraseDups.length

def resolve (schema : Schema) (model : Model) (field : Field) : Except Failure Model :=
  (field.resolve schema.allModels model).mapError (field.unresolved model)

def resolveAll (schema : Schema) : List (Model × Field) → Except Failure Unit
  | [] => .ok ()
  | (model, field) :: rest => do
    let _ ← schema.resolve model field
    resolveAll schema rest

def ofDatamodel (config : Config) (datamodel : Datamodel) : Except Failure Schema := do
  let (models, joins) ← JoinTable.synthesize datamodel.models
  let schema : Schema := { config, models, joins, enums := datamodel.enums }
  -- Relations are checked whether or not they are written.
  schema.resolveAll (JoinTable.relationFields schema.allModels)
  return schema

end Schema

end SchemaWriter
