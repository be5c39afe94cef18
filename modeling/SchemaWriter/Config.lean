import SchemaWriter.Failure
import SchemaWriter.Path
import SchemaWriter.Requirement.Basic
import SchemaWriter.Text.Basic

namespace SchemaWriter

inductive OutputMode where
  | directory
  | singleFile (stem : String)
  deriving DecidableEq, Repr

structure Config where
  dialect : Dialect
  output : String
  relationalQuery : Bool
  dateMode : DateMode
  resolution : Resolution
  deriving DecidableEq, Repr

def Resolution.ofName (name : String) : Resolution :=
  match Text.lowercase name with
  | "nodenext" => .nodeNext
  | "node16" => .nodeNext
  | _ => .bundler

namespace Config

def defaultOutput : String := "./drizzle"

def readProvider : Option String → Except ConfigFault Dialect
  | none => .error .missingProvider
  | some name => match Dialect.ofName? name with
    | some dialect => .ok dialect
    | none => .error (.unknownProvider (Text.lowercase name))

def readOutput : Option String → Except ConfigFault String
  | none => .ok defaultOutput
  | some output => if Text.isBlankText output then .error .emptyOutput else .ok output

def readRelationalQuery : Option String → Except ConfigFault Bool
  | none => .ok true
  | some "true" => .ok true
  | some "false" => .ok false
  | some value => .error (.relationalQuery value)

def readDateMode : Option String → Except ConfigFault DateMode
  | none => .ok .date
  | some name => match DateMode.ofName? name with
    | some mode => .ok mode
    | none => .error (.dateMode name)

def ofPairs? (pairs : List (String × String)) : Except ConfigFault Config := do
  -- Of two settings with one key the first counts.
  let dialect ← readProvider (pairs.lookup "provider")
  let output ← readOutput (pairs.lookup "output")
  let relationalQuery ← readRelationalQuery (pairs.lookup "relationalQuery")
  let dateMode ← readDateMode (pairs.lookup "dateMode")
  let resolution := ((pairs.lookup "moduleResolution").map Resolution.ofName).getD .bundler
  return { dialect, output, relationalQuery, dateMode, resolution }

def ofPairs (pairs : List (String × String)) : Except Failure Config :=
  (ofPairs? pairs).mapError .configuration

def outputMode (config : Config) : OutputMode :=
  match Path.extension? config.output, Path.stem? config.output with
  | some "ts", some stem => .singleFile stem
  | _, _ => .directory

end Config

end SchemaWriter
