import SchemaWriter.Datamodel.Basic
import SchemaWriter.Failure

namespace SchemaWriter

namespace Field

def faces (model : Model) (field : Field) (related : Model) (other : Field) : Bool :=
  other.relationName = field.relationName && other.type = model.name &&
    !(related.name = model.name && other.name = field.name)

def opposite? (model : Model) (field : Field) (related : Model) : Option Field :=
  related.relationFields.find? (field.faces model related)

def unresolved (model : Model) (field : Field) (fault : RelationFault) : Failure :=
  .relation model.name field.name fault

def missingColumn? (model : Model) (names : List String) : Option String :=
  names.find? (!model.hasColumn ·)

def resolve (models : List Model) (model : Model) (field : Field) : Except RelationFault Model :=
  let relation := field.relation
  match findModel? models relation.related with
  | none => .error (.unknownModel relation.related)
  | some related =>
    if relation.isHolder then
      if relation.fromFields.length ≠ relation.toFields.length then
        .error (.keyLengths relation.fromFields.length relation.toFields.length)
      else match missingColumn? model relation.fromFields with
        | some name => .error (.unknownKey name)
        | none => match missingColumn? related relation.toFields with
          | some name => .error (.unknownReference related.name name)
          | none => .ok related
    else if (field.opposite? model related).isSome then .ok related
    else .error (.noOpposite related.name)

end Field

end SchemaWriter
