import SchemaWriter.Path

namespace SchemaWriter

inductive FileFault where
  | notFound
  | alreadyExists
  | notDirectory
  | isDirectory
  | nameTooLong
  | other (text : String)
  deriving DecidableEq, Repr

def FileFault.message : FileFault → String
  | .notFound => "No such file or directory (os error 2)"
  | .alreadyExists => "File exists (os error 17)"
  | .notDirectory => "Not a directory (os error 20)"
  | .isDirectory => "Is a directory (os error 21)"
  | .nameTooLong => "File name too long (os error 36)"
  | .other text => text

namespace Path

def steps (path : String) : List String :=
  (pieces path).map String.ofList ++ (if path.toList.getLast? = some '/' then ["."] else [])

def ancestorsUpTo : Nat → String → List String
  | 0, _ => []
  | bound + 1, path => path :: match parent? path with
    | some parent => ancestorsUpTo bound parent
    | none => []

def ancestors (path : String) : List String :=
  ancestorsUpTo (path.length + 1) path

end Path

abbrev Location := List String

inductive FileEntry where
  | file (content : String)
  | directory
  deriving DecidableEq, Repr

structure FileSystem where
  current : Location
  entries : List (Location × FileEntry)
  deriving DecidableEq, Repr

namespace FileSystem

def entry? (fs : FileSystem) (place : Location) : Option FileEntry :=
  if place = [] then some .directory else fs.entries.lookup place

def isDirectoryAt (fs : FileSystem) (place : Location) : Bool :=
  fs.entry? place = some .directory

def put (fs : FileSystem) (place : Location) (entry : FileEntry) : FileSystem :=
  { fs with entries := (place, entry) :: fs.entries.filter (·.1 ≠ place) }

def start (fs : FileSystem) (path : String) : Location :=
  if Path.isAbsolute path then [] else fs.current

def enter (fs : FileSystem) (place : Location) (name : String) : Except FileFault Unit :=
  if !fs.isDirectoryAt place then .error .notDirectory
  else if 255 < name.utf8ByteSize then .error .nameTooLong
  else .ok ()

def walk (fs : FileSystem) (place : Location) : List String → Except FileFault Location
  | [] => .ok place
  | name :: rest => do
    fs.enter place name
    if name = "." then walk fs place rest
    else if name = ".." then walk fs place.dropLast rest
    else if (fs.entry? (place ++ [name])).isSome then walk fs (place ++ [name]) rest
    else throw .notFound

def locate (fs : FileSystem) (path : String) : Except FileFault Location :=
  if path.isEmpty then .error .notFound else fs.walk (fs.start path) (Path.steps path)

def read (fs : FileSystem) (path : String) : Except FileFault String := do
  match fs.entry? (← fs.locate path) with
  | some (.file content) => return content
  | _ => throw .isDirectory

def isDirectory (fs : FileSystem) (path : String) : Bool :=
  match fs.locate path with
  | .ok place => fs.isDirectoryAt place
  | .error _ => false

def target (fs : FileSystem) (path : String) : Except FileFault (Location × Option String) := do
  let names := (Path.pieces path).map String.ofList
  let directory ← fs.walk (fs.start path) names.dropLast
  match names.getLast? with
  | none => return (directory, none)
  | some name => do
    fs.enter directory name
    return (directory, if name = "." || name = ".." then none else some name)

def makeDirectory (fs : FileSystem) (path : String) : Except FileFault FileSystem := do
  match ← fs.target path with
  | (_, none) => throw .alreadyExists
  | (directory, some name) =>
    if (fs.entry? (directory ++ [name])).isSome then throw .alreadyExists
    else return fs.put (directory ++ [name]) .directory

def makeFirst (fs : FileSystem) : List String → Except FileFault FileSystem
  | [] => .ok fs
  | path :: above =>
    if path.isEmpty then .ok fs
    else match fs.makeDirectory path with
      | .ok fs => .ok fs
      | .error .notFound => do
        let fs ← makeFirst fs above
        match fs.makeDirectory path with
        | .ok fs => return fs
        | .error fault => if fs.isDirectory path then return fs else throw fault
      | .error fault => if fs.isDirectory path then .ok fs else .error fault

def makeDirectories (fs : FileSystem) (path : String) : Except FileFault FileSystem :=
  fs.makeFirst (Path.ancestors path)

def write (fs : FileSystem) (path content : String) : Except FileFault FileSystem := do
  match ← fs.target path with
  | (_, none) => throw .isDirectory
  | (directory, some name) =>
    if path.toList.getLast? = some '/' || fs.isDirectoryAt (directory ++ [name]) then
      throw .isDirectory
    else return fs.put (directory ++ [name]) (.file content)

def files (fs : FileSystem) : List (String × String) :=
  sortPaths (fs.entries.filterMap fun (place, entry) =>
    match entry with
    | .file content =>
      if fs.current.isPrefixOf place then
        some ("/".intercalate (place.drop fs.current.length), content)
      else none
    | .directory => none)
where
  sortPaths (pairs : List (String × String)) : List (String × String) :=
    pairs.mergeSort fun a b => a.1 ≤ b.1

end FileSystem

end SchemaWriter
