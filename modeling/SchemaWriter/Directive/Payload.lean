import SchemaWriter.Directive.Fault
import SchemaWriter.Json.Record
import SchemaWriter.Naming.Binding
import SchemaWriter.Requirement.Basic
import SchemaWriter.Text.Basic

namespace SchemaWriter.Directive

open SchemaWriter.Json

structure ImportSpec where
  names : List String := []
  module : String := ""
  typeOnly : Bool := false
  deriving DecidableEq, Repr

def strings? : List Json → Option (List String)
  | [] => some []
  | .string s :: rest => (strings? rest).map (s :: ·)
  | _ => none

def importedNames : Decoder (List String) := fun depth draft =>
  match draft.json? depth with
  | none => .error .malformed
  | some ⟨.string name, _⟩ => .ok [name]
  | some ⟨.array items, _⟩ => match strings? items with
    | some names => .ok names
    | none => .error (.noVariant "Names")
  | some _ => .error (.noVariant "Names")

def ImportSpec.record : Record ImportSpec where
  name := "ImportSpec"
  strict := true
  start := {}
  slots := [
    .of "name" .required importedNames fun names spec => { spec with names },
    .of "module" .required .string fun module spec => { spec with module },
    .of "type" .defaulted .bool fun typeOnly spec => { spec with typeOnly }]

def ImportSpec.requirement (spec : ImportSpec) : Except Defect Requirement :=
  if spec.names.isEmpty || spec.names.any Text.isBlankText || spec.module.isEmpty then
    .error .incompleteImport
  else .ok (.named spec.names spec.module)

def requirements : List ImportSpec → Except Defect (List Requirement)
  | [] => .ok []
  | spec :: specs => do
    let requirement ← spec.requirement
    return requirement :: (← requirements specs)

structure CustomType where
  imports : List Requirement
  type : Option String
  default : Option String
  deriving DecidableEq, Repr

structure DefaultExpression where
  imports : List Requirement
  expression : String
  deriving DecidableEq, Repr

structure CustomPayload where
  imports : List ImportSpec := []
  type : Option String := none
  default : Option String := none
  deriving DecidableEq, Repr

def CustomPayload.record : Record CustomPayload where
  name := "CustomPayload"
  strict := true
  start := {}
  slots := [
    .of "imports" .defaulted (.list ImportSpec.record.decoder) fun imports p => { p with imports },
    .of "$type" .optional (.option .string) fun type p => { p with type },
    .of "default" .optional (.option .string) fun default p => { p with default }]

structure DefaultPayload where
  imports : List ImportSpec := []
  expression : String := ""
  deriving DecidableEq, Repr

def DefaultPayload.record : Record DefaultPayload where
  name := "DefaultPayload"
  strict := true
  start := {}
  slots := [
    .of "imports" .defaulted (.list ImportSpec.record.decoder) fun imports p => { p with imports },
    .of "expr" .required .string fun expression p => { p with expression }]

def readJson {α : Type} (record : Record α) (payload : String) : Except Defect α :=
  (Decoder.text record.decoder (glyphs payload)).mapError .json

def readCustom (payload : String) : Except Defect CustomType := do
  let parsed ← readJson CustomPayload.record payload
  if parsed.type.isNone && parsed.default.isNone then throw .neitherTypeNorDefault
  if parsed.type.any Text.isBlankText then throw .emptyType
  return ⟨← requirements parsed.imports, parsed.type, parsed.default⟩

def readDefaultObject (payload : String) : Except Defect DefaultExpression := do
  let parsed ← readJson DefaultPayload.record payload
  if Text.isBlankText parsed.expression then throw .emptyExpression
  return ⟨← requirements parsed.imports, parsed.expression⟩

def splitColons? (payload : List Char) : Option (List Char × List Char) :=
  match payload.reverse.span (· ≠ ':') with
  | (name, ':' :: ':' :: module) => some (module.reverse, name.reverse)
  | _ => none

def readFunction (payload : String) : Except Defect DefaultExpression :=
  match splitColons? payload.toList with
  | some (module, name) =>
    if module.isEmpty || !Naming.isIdentifier (String.ofList name) then
      .error (.notAFunction payload)
    else
      .ok ⟨[.named [String.ofList name] (String.ofList module)], String.ofList name ++ "()"⟩
  | none => .error (.notAFunction payload)

def readDefault (payload : String) : Except Defect DefaultExpression :=
  if payload.toList.head? = some '{' then readDefaultObject payload else readFunction payload

end SchemaWriter.Directive
