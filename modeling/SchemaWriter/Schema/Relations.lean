import SchemaWriter.Fragment.Basic
import SchemaWriter.Schema.Basic

namespace SchemaWriter

def Model.reference (model : Model) : Fragment :=
  (Fragment.verbatim (Naming.tableBinding model.name)).withImports
    [.sibling (Naming.tableBinding model.name) (Naming.tableModule model.name)]

def columnReferences (binding : String) (names : List String) : Fragment :=
  .array (names.map fun name => .verbatim (binding ++ "." ++ name))

namespace Schema

def needsName (schema : Schema) (model : Model) (field : Field) : Bool :=
  field.type = model.name || 1 < schema.relationCount model.name field.type

def nameOption (schema : Schema) (model : Model) (field : Field) : List (String × Fragment) :=
  if schema.needsName model field then [("relationName", .string field.relation.name)] else []

def relationEntry (schema : Schema) (model related : Model) (field : Field) : Fragment :=
  let relation := field.relation
  let name := schema.nameOption model field
  if relation.isHolder then
    .invoke "helpers.one" [related.reference, .record (name ++ [
      ("fields", columnReferences (Naming.tableBinding model.name) relation.fromFields),
      ("references", columnReferences (Naming.tableBinding related.name) relation.toFields)])]
  else
    .invoke (if relation.isList then "helpers.many" else "helpers.one")
      (related.reference :: if name.isEmpty then [] else [.record name])

def relationEntries (schema : Schema) (model : Model) :
    List Field → Except Failure (List (String × Fragment))
  | [] => .ok []
  | field :: rest => do
    let related ← schema.resolve model field
    return (field.name, schema.relationEntry model related field) ::
      (← relationEntries schema model rest)

def relations? (schema : Schema) (model : Model) : Except Failure (Option Fragment) := do
  let entries ← schema.relationEntries model model.relationFields
  if entries.isEmpty then return none
  let binding := Naming.tableBinding model.name
  let call := (Fragment.invoke "relations"
    [.verbatim binding, .lambda ["helpers"] (.record entries)]).withImports
      [.named ["relations"] "drizzle-orm", .sibling binding (Naming.tableModule model.name)]
  return some (.declaration (Naming.relationsBinding model.name) call true)

end Schema

end SchemaWriter
