import SchemaWriter.Module
import SchemaWriter.Schema.Relations
import SchemaWriter.Schema.Table

namespace SchemaWriter

structure Declared where
  module : String
  declaration : Fragment

structure DeclaredJoin where
  table : Declared
  relations : Option Declared

structure Declarations where
  tables : List Declared
  enums : List Declared
  relations : List Declared
  joins : List DeclaredJoin

namespace Schema

def declareTable (schema : Schema) (model : Model) : Except Failure Declared := do
  let declaration ← model.declaration schema.config.dialect schema.config.dateMode
  return ⟨Naming.tableModule model.name, declaration⟩

def declareRelations? (schema : Schema) (model : Model) : Except Failure (Option Declared) := do
  if schema.config.relationalQuery then
    return (← schema.relations? model).map (⟨Naming.relationsModule model.name, ·⟩)
  else return none

def declareTables (schema : Schema) : List Model → Except Failure (List Declared)
  | [] => .ok []
  | model :: rest => do
    let table ← schema.declareTable model
    return table :: (← declareTables schema rest)

def declareEnums (schema : Schema) : List Declared :=
  schema.enums.filterMap fun enum =>
    (enum.declaration? schema.config.dialect).map (⟨Naming.enumModule enum.name, ·⟩)

def declareAllRelations (schema : Schema) : List Model → Except Failure (List Declared)
  | [] => .ok []
  | model :: rest => do
    let relations ← schema.declareRelations? model
    return relations.toList ++ (← declareAllRelations schema rest)

def declareJoins (schema : Schema) : List Model → Except Failure (List DeclaredJoin)
  | [] => .ok []
  | model :: rest => do
    let table ← schema.declareTable model
    let relations ← schema.declareRelations? model
    return ⟨table, relations⟩ :: (← declareJoins schema rest)

def declarations (schema : Schema) : Except Failure Declarations := do
  let tables ← schema.declareTables schema.models
  let relations ← schema.declareAllRelations schema.models
  let joins ← schema.declareJoins schema.joins
  return ⟨tables, schema.declareEnums, relations, joins⟩

end Schema

namespace Declarations

def modular (d : Declarations) : List Declared :=
  d.tables ++ d.enums ++ d.relations ++
    d.joins.flatMap fun join => join.table :: join.relations.toList

def sequential (d : Declarations) : List Declared :=
  d.enums ++ d.tables ++ d.joins.map (·.table) ++ d.relations ++ d.joins.filterMap (·.relations)

def directory (resolution : Resolution) (d : Declarations) : List Module :=
  let modules := d.modular.map fun one => Module.assemble resolution one.module [one.declaration]
  modules ++ [Module.schemaRoot resolution modules]

def singleFile (resolution : Resolution) (stem : String) (d : Declarations) : Module :=
  .assembleSingle resolution stem (d.sequential.map (·.declaration))

def modules (config : Config) (d : Declarations) : List Module :=
  match config.outputMode with
  | .directory => d.directory config.resolution
  | .singleFile stem => [d.singleFile config.resolution stem]

end Declarations

def Datamodel.modules (config : Config) (datamodel : Datamodel) : Except Failure (List Module) := do
  let schema ← Schema.ofDatamodel config datamodel
  return (← schema.declarations).modules config

end SchemaWriter
