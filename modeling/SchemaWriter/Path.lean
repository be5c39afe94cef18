import SchemaWriter.Text.Basic

namespace SchemaWriter.Path

open SchemaWriter.Text

def pieces (path : String) : List (List Char) :=
  (splitWhere (· = '/') path.toList).filter (!·.isEmpty)

def isAbsolute (path : String) : Bool :=
  path.toList.head? = some '/'

def lastPiece? (path : String) : Option (List Char) :=
  ((pieces path).filter (· ≠ ['.'])).getLast?

def fileName? (path : String) : Option (List Char) :=
  (lastPiece? path).filter (· ≠ ['.', '.'])

def splitExtension (name : List Char) : List Char × Option (List Char) :=
  match name.reverse.span (· ≠ '.') with
  | (_, []) => (name, none)
  -- A dot in front of the whole name begins no extension.
  | (_, [_]) => (name, none)
  | (extension, _ :: stem) => (stem.reverse, some extension.reverse)

def stem? (path : String) : Option String :=
  (fileName? path).map fun name => String.ofList (splitExtension name).1

def extension? (path : String) : Option String :=
  (fileName? path).bind fun name => (splitExtension name).2.map String.ofList

def join (directory name : String) : String :=
  if directory.isEmpty || directory.toList.getLast? = some '/' then directory ++ name
  else directory ++ "/" ++ name

def dropIdle : List Char → List Char
  | '.' :: '/' :: rest => dropIdle ('/' :: rest)
  | ['/'] => ['/']
  | '/' :: rest => dropIdle rest
  | rest => rest

def parent? (path : String) : Option String :=
  let reversed := dropIdle path.toList.reverse
  if reversed.isEmpty || reversed = ['/'] then none
  else some (String.ofList (dropIdle (reversed.dropWhile (· ≠ '/'))).reverse)

end SchemaWriter.Path
