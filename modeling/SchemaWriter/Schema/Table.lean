import SchemaWriter.Column.Basic
import SchemaWriter.Schema.Basic

namespace SchemaWriter

def EnumType.valueLiterals (enum : EnumType) : Fragment :=
  .array (enum.values.map fun value => .string value.stored)

def Dialect.enumValue? (dialect : Dialect) (enum : EnumType) : Option Fragment :=
  match dialect with
  | .postgres =>
    some ((Fragment.invoke "pgEnum" [.string enum.typeName, enum.valueLiterals]).withImports
      [dialect.coreImport "pgEnum"])
  | .mysql =>
    some (.lambda ["name: string"]
      ((Fragment.invoke "mysqlEnum" [.verbatim "name", enum.valueLiterals]).withImports
        [dialect.coreImport "mysqlEnum"]))
  | .sqlite => none

def EnumType.declaration? (dialect : Dialect) (enum : EnumType) : Option Fragment :=
  (dialect.enumValue? enum).map fun value =>
    .declaration (Naming.enumBinding enum.name) value true

namespace Model

def columnEntries (dialect : Dialect) (mode : DateMode) (model : Model) :
    List Field → Except Failure (List (String × Fragment))
  | [] => .ok []
  | field :: rest => do
    let column ← field.column dialect mode model
    return (field.name, column.fragment dialect) :: (← columnEntries dialect mode model rest)

def keyReferences (model : Model) : List String → Except Failure (List Fragment)
  | [] => .ok []
  | name :: rest =>
    if model.hasColumn name then do
      return .verbatim ("table." ++ name) :: (← keyReferences model rest)
    else .error (.configuration (.unknownKeyColumn model.name name))

def compoundKey (dialect : Dialect) (model : Model) (key : CompoundKey) :
    Except Failure Fragment := do
  let columns ← keyReferences model key.fields
  let name := match key.name with
    | some name => [("name", Fragment.string name)]
    | none => []
  let call := (Fragment.invoke "primaryKey"
    [.record (name ++ [("columns", .array columns)])]).withImports [dialect.coreImport "primaryKey"]
  return .lambda ["table"] (.record [("pk", call)])

def keyArguments (dialect : Dialect) (model : Model) : Except Failure (List Fragment) :=
  match model.primaryKey with
  | none => .ok []
  | some key =>
    if key.fields.isEmpty then .ok [] else (model.compoundKey dialect key).map fun key => [key]

def declaration (dialect : Dialect) (mode : DateMode) (model : Model) : Except Failure Fragment := do
  let columns ← model.columnEntries dialect mode model.columns
  let key ← model.keyArguments dialect
  let call := (Fragment.invoke dialect.tableFunction
    ([.string model.tableName, .record columns] ++ key)).withImports
      [dialect.coreImport dialect.tableFunction]
  return .declaration (Naming.tableBinding model.name) call true

end Model

end SchemaWriter
