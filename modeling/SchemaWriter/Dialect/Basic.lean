import SchemaWriter.Text.CaseMap

namespace SchemaWriter

inductive Dialect where
  | postgres
  | mysql
  | sqlite
  deriving DecidableEq, Repr

namespace Dialect

def name : Dialect → String
  | .postgres => "postgresql"
  | .mysql => "mysql"
  | .sqlite => "sqlite"

def ofLowercase? : String → Option Dialect
  | "postgresql" => some .postgres
  | "postgres" => some .postgres
  | "pg" => some .postgres
  | "mysql" => some .mysql
  | "sqlite" => some .sqlite
  | _ => none

def ofName? (name : String) : Option Dialect :=
  ofLowercase? (Text.lowercase name)

def coreModule : Dialect → String
  | .postgres => "drizzle-orm/pg-core"
  | .mysql => "drizzle-orm/mysql-core"
  | .sqlite => "drizzle-orm/sqlite-core"

def tableFunction : Dialect → String
  | .postgres => "pgTable"
  | .mysql => "mysqlTable"
  | .sqlite => "sqliteTable"

def hasLists : Dialect → Bool
  | .postgres => true
  | _ => false

def hasEnums : Dialect → Bool
  | .sqlite => false
  | _ => true

end Dialect

inductive DateMode where
  | date
  | string
  deriving DecidableEq, Repr

namespace DateMode

def ofName? : String → Option DateMode
  | "date" => some .date
  | "string" => some .string
  | _ => none

def refusal (name : String) : String :=
  "expected `date` or `string`, got `" ++ name ++ "`"

end DateMode

end SchemaWriter
