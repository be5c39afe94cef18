import SchemaWriter.Binary64
import SchemaWriter.Json.Basic
import SchemaWriter.Text.Quoted

namespace SchemaWriter.Json

def Number.render : Number → String
  | .integer value => toString value
  | .float value => value.render .json

inductive Found where
  | null
  | bool (value : Bool)
  | number (value : Number)
  | string (value : String)
  | sequence
  | map
  deriving DecidableEq, Repr

inductive Fault where
  | malformed
  | wrongType (found : Found) (wanted : String)
  | wrongLength (length : Nat) (record : String) (fields : Nat)
  | missingField (name : String)
  | unknownField (name : String) (known : List String)
  | duplicateField (name : String)
  | unknownVariant (name : String) (known : List String)
  | noVariant (type : String)
  deriving DecidableEq, Repr

def Found.message : Found → String
  | .null => "null"
  | .bool value => "boolean `" ++ toString value ++ "`"
  | .number (.integer value) => "integer `" ++ toString value ++ "`"
  | .number (.float value) => "floating point `" ++ value.render .json ++ "`"
  | .string value => "string " ++ Text.quoted value
  | .sequence => "sequence"
  | .map => "map"

def oneOf (names : List String) : String :=
  match names.map fun name => "`" ++ name ++ "`" with
  | [one] => one
  | [one, two] => one ++ " or " ++ two
  | names => "one of " ++ ", ".intercalate names

def Fault.message : Fault → String
  | .malformed => "<syntax>"
  | .wrongType found wanted => "invalid type: " ++ found.message ++ ", expected " ++ wanted
  | .wrongLength length record fields =>
    "invalid length " ++ toString length ++ ", expected struct " ++ record ++ " with " ++
      toString fields ++ " elements"
  | .missingField name => "missing field `" ++ name ++ "`"
  | .unknownField name known => "unknown field `" ++ name ++ "`, expected " ++ oneOf known
  | .duplicateField name => "duplicate field `" ++ name ++ "`"
  | .unknownVariant name known => "unknown variant `" ++ name ++ "`, expected " ++ oneOf known
  | .noVariant type => "data did not match any variant of untagged enum " ++ type

end SchemaWriter.Json
