import SchemaWriter.Naming.Binding
import SchemaWriter.Relation.Opposite

namespace SchemaWriter

structure ManyToMany where
  model : Model
  field : Field
  related : Model
  opposite : Field
  deriving Repr

structure Endpoint where
  model : String
  field : String
  relation : String
  deriving DecidableEq, Repr

structure JoinTable where
  table : Model
  endpoints : List Endpoint
  deriving Repr

namespace ManyToMany

def ofField? (models : List Model) (model : Model) (field : Field) :
    Except Failure (Option ManyToMany) :=
  if !field.isList || field.relation.isHolder then .ok none
  else match findModel? models field.type with
    | none => .error (field.unresolved model (.unknownModel field.type))
    | some related => match field.opposite? model related with
      | none => .error (field.unresolved model (.noOpposite related.name))
      | some opposite =>
        if !opposite.isList || !opposite.relationFromFields.isEmpty then .ok none
        else .ok (some ⟨model, field, related, opposite⟩)

def relation (link : ManyToMany) : String :=
  link.field.relation.name

def isSelf (link : ManyToMany) : Bool :=
  link.model.name = link.related.name

def tableName (link : ManyToMany) : String :=
  "_" ++ link.relation

def sides (link : ManyToMany) : Model × Model :=
  if link.related.name < link.model.name then (link.related, link.model)
  else (link.model, link.related)

def sideRelations (link : ManyToMany) : String × String :=
  if link.isSelf then (link.relation ++ "_A", link.relation ++ "_B")
  else (link.relation, link.relation)

def endpoints (link : ManyToMany) : List Endpoint :=
  let (a, b) := link.sideRelations
  if link.isSelf then
    let (first, second) :=
      if link.opposite.name < link.field.name then (link.opposite, link.field)
      else (link.field, link.opposite)
    [⟨link.model.name, first.name, a⟩, ⟨link.model.name, second.name, b⟩]
  else
    [⟨link.model.name, link.field.name, a⟩, ⟨link.related.name, link.opposite.name, b⟩]

def idOf (link : ManyToMany) (model : Model) : Except Failure Field :=
  match model.idField? with
  | some id => .ok id
  | none => .error (link.field.unresolved link.model (.noSingleId model.name))

def keyColumn (name : String) (id : Field) : Field :=
  { name, kind := id.kind, type := id.type, isRequired := true }

def holderField (name related relation column id : String) : Field :=
  { name, kind := .object, type := related, isRequired := true, relationName := some relation,
    relationFromFields := [column], relationToFields := [id] }

def sideFields (a b : Model) : String × String :=
  if a.name = b.name then (Naming.modelField a.name ++ "A", Naming.modelField a.name ++ "B")
  else (Naming.modelField a.name, Naming.modelField b.name)

def table (link : ManyToMany) (aId bId : Field) : Model :=
  let (a, b) := link.sides
  let (aField, bField) := sideFields a b
  let (aRelation, bRelation) := link.sideRelations
  { name := link.tableName
    fields := [
      keyColumn "A" aId,
      keyColumn "B" bId,
      holderField aField a.name aRelation "A" aId.name,
      holderField bField b.name bRelation "B" bId.name] }

def joinTable (link : ManyToMany) : Except Failure JoinTable := do
  let aId ← link.idOf link.sides.1
  let bId ← link.idOf link.sides.2
  return ⟨link.table aId bId, link.endpoints⟩

end ManyToMany

namespace JoinTable

def collect (models : List Model) (seen : List String) :
    List (Model × Field) → Except Failure (List JoinTable)
  | [] => .ok []
  | (model, field) :: rest => do
    match ← ManyToMany.ofField? models model field with
    | none => collect models seen rest
    | some link =>
      if seen.contains link.relation then collect models seen rest
      else do
        let join ← link.joinTable
        return join :: (← collect models (link.relation :: seen) rest)

def relationFields (models : List Model) : List (Model × Field) :=
  models.flatMap fun model => model.relationFields.map fun field => (model, field)

def ofModels (models : List Model) : Except Failure (List JoinTable) :=
  collect models [] (relationFields models)

def turn? (joins : List JoinTable) (model : Model) (field : Field) : Option (Model × Endpoint) :=
  -- Of several join tables the last one counts.
  (joins.flatMap fun join => join.endpoints.map fun endpoint => (join.table, endpoint)).reverse.find?
    fun (_, endpoint) => endpoint.model = model.name && endpoint.field = field.name

def turnField (joins : List JoinTable) (model : Model) (field : Field) : Field :=
  match turn? joins model field with
  | none => field
  | some (table, endpoint) =>
    { field with
      type := table.name, relationName := some endpoint.relation, isList := true,
      relationFromFields := [], relationToFields := [] }

def turnModel (joins : List JoinTable) (model : Model) : Model :=
  { model with fields := model.fields.map (turnField joins model) }

def synthesize (models : List Model) : Except Failure (List Model × List Model) := do
  let joins ← ofModels models
  return (models.map (turnModel joins), joins.map (·.table))

end JoinTable

end SchemaWriter
