import SchemaWriter.Directive.Fault

namespace SchemaWriter

inductive ConfigFault where
  | missingProvider
  | unknownProvider (name : String)
  | emptyOutput
  | relationalQuery (value : String)
  | dateMode (name : String)
  | unknownKeyColumn (model column : String)
  | relationColumn (model field : String)
  | namelessCall (generic : String)
  deriving DecidableEq, Repr

def ConfigFault.message : ConfigFault → String
  | .missingProvider => "missing `provider`"
  | .unknownProvider name => "unknown provider: " ++ name
  | .emptyOutput => "`output` must not be empty"
  | .relationalQuery value =>
    "`relationalQuery` must be `true` or `false`, got `" ++ value ++ "`"
  | .dateMode name => "invalid `dateMode`: " ++ DateMode.refusal name
  | .unknownKeyColumn model column =>
    "compound key of " ++ model ++ " references unknown column " ++ column
  | .relationColumn model field => "relation field " ++ model ++ "." ++ field ++ " cannot be a column"
  | .namelessCall generic => "generic call <" ++ generic ++ "> has no function name"

inductive RelationFault where
  | unknownModel (name : String)
  | noOpposite (model : String)
  | noSingleId (model : String)
  | keyLengths (fields references : Nat)
  | unknownKey (field : String)
  | unknownReference (model field : String)
  deriving DecidableEq, Repr

def RelationFault.message : RelationFault → String
  | .unknownModel name => "unknown model " ++ name
  | .noOpposite model => "no opposite field on " ++ model
  | .noSingleId model => "implicit many-to-many requires a single @id field on " ++ model
  | .keyLengths fields references =>
    toString fields ++ " foreign-key fields but " ++ toString references ++ " referenced fields"
  | .unknownKey field => "unknown foreign-key field " ++ field
  | .unknownReference model field => "unknown referenced field " ++ model ++ "." ++ field

inductive Failure where
  | configuration (fault : ConfigFault)
  | unsupportedType (dialect : Dialect) (model field type : String)
  | directive (model field documentation : String) (fault : Directive.Fault)
  | relation (model field : String) (fault : RelationFault)
  | decode (fault : Json.Fault)
  | jsonDefault (model field : String) (fault : Json.Fault)
  deriving DecidableEq, Repr

def Failure.message : Failure → String
  | .configuration fault => "configuration error: " ++ fault.message
  | .unsupportedType dialect model field type =>
    "unsupported field type " ++ type ++ " for " ++ model ++ "." ++ field ++ " in dialect " ++
      dialect.name
  | .directive model field documentation fault =>
    "invalid directive on " ++ model ++ "." ++ field ++ ": " ++ fault.message ++
      "\n  documentation: " ++ Text.quoted documentation
  | .relation model field fault =>
    "unresolved relation " ++ model ++ "." ++ field ++ ": " ++ fault.message
  | .decode fault => "decode error: " ++ fault.message
  | .jsonDefault model field fault =>
    "decode error: invalid JSON default on " ++ model ++ "." ++ field ++ ": " ++ fault.message

end SchemaWriter
