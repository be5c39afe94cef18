import SchemaWriter.Datamodel.Basic
import SchemaWriter.Dialect.Basic
import SchemaWriter.Fragment.Basic

namespace SchemaWriter

inductive OptionValue where
  | string (value : String)
  | integer (value : Int)
  deriving DecidableEq, Repr

def OptionValue.fragment : OptionValue → Fragment
  | .string value => .string value
  | .integer value => .integer value

structure Constructor where
  function : String
  options : List (String × OptionValue) := []
  deriving DecidableEq, Repr

def Constructor.call (constructor : Constructor) (column : String) : Fragment :=
  .invoke constructor.function (.string column ::
    if constructor.options.isEmpty then []
    else [.record (constructor.options.map fun (key, value) => (key, value.fragment))])

def DateMode.name : DateMode → String
  | .date => "date"
  | .string => "string"

namespace Dialect

def coreImport (dialect : Dialect) (name : String) : Requirement :=
  .named [name] dialect.coreModule

def precise : List (String × OptionValue) :=
  [("precision", .integer 65), ("scale", .integer 30)]

def mode (name : String) : List (String × OptionValue) :=
  [("mode", .string name)]

def postgresConstructor (dateMode : DateMode) : Scalar → Constructor
  | .int => ⟨"integer", []⟩
  | .float => ⟨"doublePrecision", []⟩
  | .string => ⟨"text", []⟩
  | .boolean => ⟨"boolean", []⟩
  | .dateTime => ⟨"timestamp", mode dateMode.name ++ [("precision", .integer 3)]⟩
  | .decimal => ⟨"decimal", precise⟩
  | .bigInt => ⟨"bigint", mode "bigint"⟩
  | .json => ⟨"jsonb", []⟩
  | .bytes => ⟨"bytea", []⟩

def mysqlConstructor (dateMode : DateMode) : Scalar → Constructor
  | .int => ⟨"int", []⟩
  | .float => ⟨"double", []⟩
  | .string => ⟨"text", []⟩
  | .boolean => ⟨"boolean", []⟩
  | .dateTime => ⟨"datetime", mode dateMode.name ++ [("fsp", .integer 3)]⟩
  | .decimal => ⟨"decimal", precise⟩
  | .bigInt => ⟨"bigint", mode "bigint"⟩
  | .json => ⟨"json", []⟩
  | .bytes => ⟨"binary", []⟩

def sqliteConstructor (dateMode : DateMode) : Scalar → Constructor
  | .int => ⟨"integer", mode "number"⟩
  | .float => ⟨"real", []⟩
  | .string => ⟨"text", []⟩
  | .boolean => ⟨"integer", mode "boolean"⟩
  | .dateTime => match dateMode with
    | .date => ⟨"integer", mode "timestamp_ms"⟩
    | .string => ⟨"text", []⟩
  | .decimal => ⟨"numeric", []⟩
  | .bigInt => ⟨"blob", mode "bigint"⟩
  | .json => ⟨"text", mode "json"⟩
  | .bytes => ⟨"blob", mode "buffer"⟩

def constructor (dialect : Dialect) (dateMode : DateMode) (scalar : Scalar) : Constructor :=
  match dialect with
  | .postgres => postgresConstructor dateMode scalar
  | .mysql => mysqlConstructor dateMode scalar
  | .sqlite => sqliteConstructor dateMode scalar

def construct (dialect : Dialect) (constructor : Constructor) (column : String) : Fragment :=
  (constructor.call column).withImports [dialect.coreImport constructor.function]

end Dialect

def DateMode.now : DateMode → Fragment
  | .date => .verbatim "new Date()"
  | .string => .verbatim "new Date().toISOString()"

end SchemaWriter
