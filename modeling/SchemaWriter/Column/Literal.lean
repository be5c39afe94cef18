import SchemaWriter.Datamodel.Basic
import SchemaWriter.Failure
import SchemaWriter.Fragment.Basic
import SchemaWriter.Json.Decoder
import SchemaWriter.Naming.Binding

namespace SchemaWriter

def propertyKey (key : String) : String :=
  if Naming.isIdentifier key then key else Literal.quote key

def Json.Number.fragment : Json.Number → Fragment
  | .integer value =>
    if value < Nat.pow 2 63 then .integer value
    else .float (.ofRatio (value < 0) value.natAbs 1)
  | .float value => .float value

namespace Json

mutual

def fragment : Json → Fragment
  | .null => .verbatim "null"
  | .bool value => .boolean value
  | .number value => value.fragment
  | .string value => .string value
  | .array items => .array (fragments items)
  | .object members => .object (memberEntries members)

def fragments : List Json → List Fragment
  | [] => []
  | item :: items => item.fragment :: fragments items

def memberEntries : List (String × Json) → List Entry
  | [] => []
  | (key, value) :: members => .property (propertyKey key) value.fragment :: memberEntries members

end

end Json

namespace Field

def scalarLiteral (model : Model) (field : Field) (mode : DateMode) (value : Json) :
    Scalar → Except Failure Fragment
  | .bigInt => match value with
    | .string s => .ok (.invoke "BigInt" [.string s])
    | .number n => .ok (.invoke "BigInt" [.string n.render])
    | value => .ok value.fragment
  | .dateTime => match value, mode with
    | .string s, .date => .ok (.verbatim ("new Date(" ++ Literal.quote s ++ ")"))
    | value, _ => .ok value.fragment
  | .decimal => match value with
    | .number n => .ok (.string n.render)
    | value => .ok value.fragment
  | .json => match value with
    | .string s => match Json.Decoder.text Json.Decoder.json (Json.glyphs s) with
      | .ok parsed => .ok parsed.json.fragment
      | .error fault => .error (.jsonDefault model.name field.name fault)
    | value => .ok value.fragment
  | .bytes => match value with
    | .string s => .ok (.verbatim ("Buffer.from(" ++ Literal.quote s ++ ", 'base64')"))
    | value => .ok value.fragment
  | _ => .ok value.fragment

mutual

def literal (model : Model) (field : Field) (mode : DateMode) : Json → Except Failure Fragment
  | .array items => (literals model field mode items).map .array
  | value => match field.columnType? with
    | some (.scalar scalar) => scalarLiteral model field mode value scalar
    | _ => .ok value.fragment

def literals (model : Model) (field : Field) (mode : DateMode) :
    List Json → Except Failure (List Fragment)
  | [] => .ok []
  | item :: items => do
    let first ← literal model field mode item
    return first :: (← literals model field mode items)

end

end Field

end SchemaWriter
