import SchemaWriter.Datamodel.Reader
import SchemaWriter.Json.Printer
import SchemaWriter.Json.Utf8
import SchemaWriter.Schema.Modules

namespace SchemaWriter

open SchemaWriter.Json

structure Request where
  datamodel : Datamodel
  settings : List (String × String)
  deriving Repr

structure OutputFile where
  name : String
  content : String
  deriving DecidableEq, Repr

structure Response where
  files : List OutputFile
  error : Option String
  deriving DecidableEq, Repr

def Request.record : Record Request where
  name := "GenerateRequest"
  strict := false
  start := { datamodel := {}, settings := [] }
  slots := [
    .of "datamodel" .required Datamodel.record.decoder
      fun datamodel request => { request with datamodel },
    .of "config" .defaulted (.dictionary .string)
      fun settings request => { request with settings }]

namespace Request

def parse (text : List Glyph) : Except Failure Request :=
  (Decoder.text Request.record.decoder text).mapError .decode

def singleFileName? (config : Config) : Option String :=
  match config.outputMode with
  | .singleFile _ => (Path.fileName? config.output).map String.ofList
  | .directory => none

def fileName (config : Config) (m : Module) : String :=
  (singleFileName? config).getD (m.name ++ ".ts")

def files (request : Request) : Except Failure (List OutputFile) := do
  let config ← Config.ofPairs request.settings
  let modules ← request.datamodel.modules config
  return modules.map fun m => ⟨fileName config m, m.code⟩

def respond (request : Request) : Response :=
  match request.files with
  | .ok files => ⟨files, none⟩
  | .error failure => ⟨[], some failure.message⟩

def filesOf (text : List Glyph) : Except Failure (List OutputFile) := do
  (← parse text).files

def respondTo (text : List Glyph) : Response :=
  match filesOf text with
  | .ok files => ⟨files, none⟩
  | .error failure => ⟨[], some failure.message⟩

end Request

def OutputFile.toJson (file : OutputFile) : Json :=
  .object [("name", .string file.name), ("content", .string file.content)]

def Response.toJson (response : Response) : Json :=
  .object (("files", .array (response.files.map OutputFile.toJson)) ::
    match response.error with
    | some error => [("error", .string error)]
    | none => [])

end SchemaWriter
