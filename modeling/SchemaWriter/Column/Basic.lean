import SchemaWriter.Column.Literal
import SchemaWriter.Column.Modifier
import SchemaWriter.Directive.Basic

namespace SchemaWriter

namespace Field

def directives (model : Model) (field : Field) : Except Failure Directives :=
  match field.documentation with
  | none => .ok {}
  | some documentation =>
    (Directives.parse documentation).mapError (.directive model.name field.name documentation)

def typeText (field : Field) : String :=
  if field.isList then field.type ++ "[]" else field.type

def unsupported (dialect : Dialect) (model : Model) (field : Field) : Failure :=
  .unsupportedType dialect model.name field.name field.typeText

def constructorCall (dialect : Dialect) (model : Model) (mode : DateMode) (field : Field) :
    Except Failure Fragment :=
  match field.columnType? with
  | some (.scalar scalar) =>
    .ok (dialect.construct (dialect.constructor mode scalar) field.columnName)
  | some .enum =>
    if dialect.hasEnums then
      let binding := Naming.enumBinding field.type
      .ok ((Fragment.invoke binding [.string field.columnName]).withImports
        [.sibling binding (Naming.enumModule field.type)])
    else .error (field.unsupported dialect model)
  | some .unsupported => .error (field.unsupported dialect model)
  | none => .error (.configuration (.relationColumn model.name field.name))

def listModifiers (dialect : Dialect) (model : Model) (field : Field) :
    Except Failure (List Modifier) :=
  if !field.isList then .ok []
  else if dialect.hasLists then .ok [.array]
  else .error (field.unsupported dialect model)

def typeModifiers (directives : Directives) : List Modifier :=
  match directives.custom with
  | some ⟨imports, some type, _⟩ => [.narrow type imports]
  | _ => []

def isAutoincrement (field : Field) : Bool :=
  match field.defaultValue with
  | some (.function name _) => name = "autoincrement"
  | _ => false

def keyModifiers (field : Field) : List Modifier :=
  if field.isId then [.primaryKey field.isAutoincrement]
  else if field.isRequired then [.notNull]
  else []

def uniqueModifiers (field : Field) : List Modifier :=
  if field.isUnique && !field.isId then [.unique] else []

def defaultModifiers (model : Model) (field : Field) (directives : Directives) (mode : DateMode) :
    Except Failure (List Modifier) :=
  match directives.defaultExpression? with
  | some default => .ok [.expression default.expression default.imports]
  | none => match field.defaultValue with
    | none => .ok []
    | some (.function "now" _) => .ok [.now mode]
    | some (.function "autoincrement" _) => .ok [.autoincrement]
    -- Any other function is left to the database.
    | some (.function _ _) => .ok []
    | some (.literal value) =>
      (literal model field mode value.json).map fun value => [.literal value]

def updateModifiers (field : Field) (mode : DateMode) : List Modifier :=
  if field.isUpdatedAt then [.onUpdate mode] else []

def dateMode (directives : Directives) (mode : DateMode) : DateMode :=
  directives.dateMode.getD mode

end Field

structure Column where
  base : Fragment
  modifiers : List Modifier

namespace Column

def link (dialect : Dialect) (base : Fragment) (modifiers : List Modifier) : Fragment :=
  (modifiers.filterMap (Modifier.fragment? dialect)).foldl Fragment.andThen base

def fragment (dialect : Dialect) (column : Column) : Fragment :=
  link dialect column.base column.modifiers

end Column

namespace Field

def base (dialect : Dialect) (model : Model) (mode : DateMode) (field : Field) :
    Except Failure Column := do
  let call ← field.constructorCall dialect model mode
  let list ← field.listModifiers dialect model
  return ⟨call, list⟩

def column (dialect : Dialect) (mode : DateMode) (model : Model) (field : Field) :
    Except Failure Column := do
  let directives ← field.directives model
  let mode := dateMode directives mode
  let base ← field.base dialect model mode
  let default ← field.defaultModifiers model directives mode
  return ⟨base.base, base.modifiers ++ typeModifiers directives ++ field.keyModifiers ++
    field.uniqueModifiers ++ default ++ field.updateModifiers mode⟩

end Field

end SchemaWriter
