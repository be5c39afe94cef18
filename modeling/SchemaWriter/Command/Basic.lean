import SchemaWriter.Command.Arguments
import SchemaWriter.Datamodel.Reader
import SchemaWriter.FileSystem
import SchemaWriter.Schema.Modules

namespace SchemaWriter.Command

inductive CommandFault where
  | generation (failure : Failure)
  | read (path : String) (fault : FileFault)
  | write (path : String) (fault : FileFault)
  deriving DecidableEq, Repr

def CommandFault.message : CommandFault → String
  | .generation failure => failure.message
  | .read path fault => "failed to read " ++ path ++ ": " ++ fault.message
  | .write path fault => "failed to write " ++ path ++ ": " ++ fault.message

structure Surroundings (m : Type → Type) where
  read : String → m (Except FileFault String)
  makeDirectories : String → m (Except FileFault Unit)
  write : String → String → m (Except FileFault Unit)
  print : String → m Unit
  warn : String → m Unit

def targetPath (config : Config) (m : Module) : String :=
  match config.outputMode with
  | .directory => Path.join config.output (m.name ++ ".ts")
  | .singleFile _ => config.output

def plan (config : Config) (text : String) : Except Failure (List (String × String)) := do
  let datamodel ← (Datamodel.parse text).mapError .decode
  let modules ← datamodel.modules config
  return modules.map fun m => (targetPath config m, m.code)

def preview (path code : String) : String :=
  "// " ++ path ++ "\n" ++ code ++ "\n"

section

variable {m : Type → Type} [Monad m]

def save (s : Surroundings m) (path code : String) : ExceptT CommandFault m Unit := do
  match (Path.parent? path).filter (!·.isEmpty) with
  | some parent => ExceptT.mk do
    return (← s.makeDirectories parent).mapError (.write parent)
  | none => pure ()
  ExceptT.mk do
    return (← s.write path code).mapError (.write path)

def emit (s : Surroundings m) (dryRun : Bool) : List (String × String) → ExceptT CommandFault m Unit
  | [] => pure ()
  | (path, code) :: rest => do
    if dryRun then ExceptT.lift (s.print (preview path code))
    else save s path code
    emit s dryRun rest

def execute (s : Surroundings m) (arguments : Arguments) : ExceptT CommandFault m Unit := do
  let config ← ExceptT.mk (pure ((Config.ofPairs arguments.settings).mapError .generation))
  -- The settings are judged before the file is read.
  let text ← ExceptT.mk do
    return (← s.read arguments.datamodel).mapError (.read arguments.datamodel)
  let files ← ExceptT.mk (pure ((plan config text).mapError .generation))
  emit s arguments.dryRun files

def run (s : Surroundings m) (arguments : Arguments) : m UInt32 := do
  match ← (execute s arguments).run with
  | .ok () => return 0
  | .error fault => do
    s.warn ("error: " ++ fault.message ++ "\n")
    return 1

end

structure Stage where
  files : FileSystem
  output : String := ""
  warnings : String := ""
  deriving DecidableEq, Repr

def Stage.update (change : FileSystem → Except FileFault FileSystem) :
    StateM Stage (Except FileFault Unit) := do
  let stage ← get
  match change stage.files with
  | .ok files => do
    set { stage with files }
    return .ok ()
  | .error fault => return .error fault

def Stage.surroundings : Surroundings (StateM Stage) where
  read path := return (← get).files.read path
  makeDirectories path := Stage.update (·.makeDirectories path)
  write path code := Stage.update (·.write path code)
  print text := modify fun stage => { stage with output := stage.output ++ text }
  warn text := modify fun stage => { stage with warnings := stage.warnings ++ text }

def Stage.run (stage : Stage) (arguments : List String) : UInt32 × Stage :=
  match Arguments.parse arguments with
  | none => (2, stage)
  | some arguments => (Command.run Stage.surroundings arguments).run stage

end SchemaWriter.Command
