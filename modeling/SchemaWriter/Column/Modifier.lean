import SchemaWriter.Dialect.Constructor
import SchemaWriter.Failure

namespace SchemaWriter

inductive Modifier where
  | array
  | narrow (type : String) (imports : List Requirement)
  | primaryKey (numbered : Bool)
  | notNull
  | unique
  | expression (source : String) (imports : List Requirement)
  | literal (value : Fragment)
  | now (mode : DateMode)
  | autoincrement
  | onUpdate (mode : DateMode)

def Dialect.autoincrement? : Dialect → Option String
  | .postgres => some "generatedByDefaultAsIdentity"
  | .mysql => some "autoincrement"
  | .sqlite => none

def Dialect.primaryKey (dialect : Dialect) (numbered : Bool) : Fragment :=
  match dialect, numbered with
  | .sqlite, true => .invoke "primaryKey" [.record [("autoIncrement", .boolean true)]]
  | _, _ => .invoke "primaryKey" []

def defaultFunction (value : Fragment) : Fragment :=
  .invoke "$defaultFn" [.thunk value]

def Dialect.defaultNow (dialect : Dialect) (mode : DateMode) : Fragment :=
  match dialect with
  | .sqlite => defaultFunction mode.now
  | _ => .invoke "defaultNow" []

def Fragment.genericCall (callee generic : String) (arguments : List Fragment) :
    Except Failure Fragment :=
  if callee.isEmpty then .error (.configuration (.namelessCall generic))
  else .ok (.call callee (some generic) arguments)

def Modifier.fragment? (dialect : Dialect) : Modifier → Option Fragment
  | .array => some (.invoke "array" [])
  | .narrow type imports => some ((Fragment.call "$type" (some type) []).withImports imports)
  | .primaryKey numbered => some (dialect.primaryKey numbered)
  | .notNull => some (.invoke "notNull" [])
  | .unique => some (.invoke "unique" [])
  | .expression source imports =>
    some ((defaultFunction (.verbatim source)).withImports imports)
  | .literal value => some (.invoke "default" [value])
  | .now mode => some (dialect.defaultNow mode)
  | .autoincrement => dialect.autoincrement?.map fun name => .invoke name []
  | .onUpdate mode => some (.invoke "$onUpdate" [.thunk mode.now])

theorem Modifier.genericCall_type (dialect : Dialect) (type : String)
    (imports : List Requirement) :
    (Fragment.genericCall "$type" type []).map (fun call => some (call.withImports imports)) =
      .ok ((narrow type imports).fragment? dialect) := by
  rfl

end SchemaWriter
