import SchemaWriter.Dialect.Basic
import SchemaWriter.Json.Fault

namespace SchemaWriter.Directive

inductive Tag where
  | custom
  | default
  | dateMode
  deriving DecidableEq, Repr

def Tag.name : Tag → String
  | .custom => "custom"
  | .default => "default"
  | .dateMode => "dateMode"

def Tag.ofName? : String → Option Tag
  | "custom" => some .custom
  | "default" => some .default
  | "dateMode" => some .dateMode
  | _ => none

inductive Defect where
  | json (fault : Json.Fault)
  | incompleteImport
  | neitherTypeNorDefault
  | emptyType
  | emptyExpression
  | notAFunction (payload : String)
  deriving DecidableEq, Repr

def Defect.message : Defect → String
  | .json fault => fault.message
  | .incompleteImport => "imports need a module and at least one name"
  | .neitherTypeNorDefault => "expected `$type` or `default`"
  | .emptyType => "`$type` must not be empty"
  | .emptyExpression => "`expr` must not be empty"
  | .notAFunction payload =>
    "expected `<module>::<function>` or a JSON object, got `" ++ payload ++ "`"

inductive Fault where
  | missingPayload (tag : Tag)
  | duplicate (tag : Tag)
  | malformed (tag : Tag) (defect : Defect)
  | dateMode (name : String)
  deriving DecidableEq, Repr

def Fault.message : Fault → String
  | .missingPayload tag => "`drizzle." ++ tag.name ++ "` requires a payload"
  | .duplicate tag => "`drizzle." ++ tag.name ++ "` appears more than once"
  | .malformed tag defect => "malformed `drizzle." ++ tag.name ++ "` payload: " ++ defect.message
  | .dateMode name => "invalid date mode: " ++ DateMode.refusal name

end SchemaWriter.Directive
