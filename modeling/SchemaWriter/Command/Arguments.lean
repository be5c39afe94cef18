import SchemaWriter.Config

namespace SchemaWriter.Command

structure Arguments where
  datamodel : String
  provider : String
  output : String
  dateMode : Option String
  moduleResolution : Option String
  relationalQuery : Bool
  dryRun : Bool
  deriving DecidableEq, Repr

inductive Key where
  | provider
  | output
  | dateMode
  | moduleResolution
  | noRelationalQuery
  | dryRun
  deriving DecidableEq, Repr

def Key.takesValue : Key → Bool
  | .noRelationalQuery => false
  | .dryRun => false
  | _ => true

def Key.ofLong? : String → Option Key
  | "provider" => some .provider
  | "output" => some .output
  | "date-mode" => some .dateMode
  | "module-resolution" => some .moduleResolution
  | "no-relational-query" => some .noRelationalQuery
  | "dry-run" => some .dryRun
  | _ => none

def Key.ofShort? : Char → Option Key
  | 'p' => some .provider
  | 'o' => some .output
  | _ => none

inductive Form where
  | positional (value : String)
  | option (key : Key) (value : Option String)
  | terminator
  | unknown
  deriving DecidableEq, Repr

def afterEquals (cs : List Char) : Option String :=
  match cs.dropWhile (· ≠ '=') with
  | [] => none
  | _ :: value => some (String.ofList value)

def longForm (cs : List Char) : Form :=
  match Key.ofLong? (String.ofList (cs.takeWhile (· ≠ '='))) with
  | some key => .option key (afterEquals cs)
  | none => .unknown

def shortForm (letter : Char) (cs : List Char) : Form :=
  match Key.ofShort? letter with
  | some key => .option key (match cs with
    | [] => none
    | '=' :: value => some (String.ofList value)
    | value => some (String.ofList value))
  | none => .unknown

def Form.of (argument : String) : Form :=
  match argument.toList with
  | ['-', '-'] => .terminator
  | '-' :: '-' :: name => longForm name
  | '-' :: letter :: rest => shortForm letter rest
  | _ => .positional argument

structure Given where
  positional : List String := []
  options : List (Key × String) := []
  deriving DecidableEq, Repr

def Given.has (given : Given) (key : Key) : Bool :=
  given.options.any (·.1 = key)

def Given.option? (given : Given) (key : Key) (value : String) : Option Given :=
  if given.has key then none else some { given with options := (key, value) :: given.options }

def Form.value? : Form → Option String
  | .positional value => some value
  | _ => none

def Given.read (given : Given) : List String → Option Given
  | [] => some given
  | [argument] =>
    match Form.of argument with
    | .terminator => some given
    | .unknown => none
    | .positional value => some { given with positional := given.positional ++ [value] }
    | .option key none => if key.takesValue then none else given.option? key ""
    | .option key (some value) => if key.takesValue then given.option? key value else none
  | argument :: next :: rest =>
    match Form.of argument with
    | .terminator => some { given with positional := given.positional ++ next :: rest }
    | .unknown => none
    | .positional value =>
      read { given with positional := given.positional ++ [value] } (next :: rest)
    | .option key none =>
      if key.takesValue then do
        let value ← (Form.of next).value?
        let given ← given.option? key value
        read given rest
      else do
        let given ← given.option? key ""
        read given (next :: rest)
    | .option key (some value) =>
      if key.takesValue then do
        let given ← given.option? key value
        read given (next :: rest)
      else none

def Given.value? (given : Given) (key : Key) : Option String :=
  given.options.lookup key

def Arguments.parse (arguments : List String) : Option Arguments := do
  let given ← Given.read {} arguments
  let provider ← given.value? .provider
  match given.positional with
  | [datamodel] =>
    if datamodel.isEmpty then none
    else some {
      datamodel, provider
      output := (given.value? .output).getD Config.defaultOutput
      dateMode := given.value? .dateMode
      moduleResolution := given.value? .moduleResolution
      relationalQuery := !given.has .noRelationalQuery
      dryRun := given.has .dryRun }
  | _ => none

def Arguments.settings (arguments : Arguments) : List (String × String) :=
  [("provider", arguments.provider), ("output", arguments.output),
    ("relationalQuery", if arguments.relationalQuery then "true" else "false")] ++
  (match arguments.dateMode with
    | some mode => [("dateMode", mode)]
    | none => []) ++
  (match arguments.moduleResolution with
    | some resolution => [("moduleResolution", resolution)]
    | none => [])

end SchemaWriter.Command
