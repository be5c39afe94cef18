import SchemaWriter.Command.Basic
import SchemaWriter.Request

namespace SchemaWriter

def FileFault.ofError : IO.Error → FileFault
  | .noFileOrDirectory .. => .notFound
  | .alreadyExists .. => .alreadyExists
  | .inappropriateType _ _ details => .other details
  | error => .other (toString error)

def attempt {α : Type} (action : IO α) : IO (Except FileFault α) :=
  try return .ok (← action) catch error => return .error (.ofError error)

def machine : Command.Surroundings IO where
  read path := attempt (IO.FS.readFile path)
  makeDirectories path := attempt (IO.FS.createDirAll path)
  write path code := attempt (IO.FS.writeFile path code)
  print text := do (← IO.getStdout).putStr text
  warn text := do (← IO.getStderr).putStr text

def usage : String :=
  "usage: <datamodel> -p <provider> [-o <output>] [--date-mode <mode>] " ++
    "[--module-resolution <style>] [--no-relational-query] [--dry-run]\n"

partial def readBytes (input : IO.FS.Stream) (start : ByteArray) : IO ByteArray := do
  let bytes ← input.read 65536
  if bytes.isEmpty then return start else readBytes input (start ++ bytes)

def answer : IO Unit := do
  let bytes ← readBytes (← IO.getStdin) .empty
  let response := Request.respondTo (Json.Utf8.glyphs bytes.toList)
  (← IO.getStdout).putStr response.toJson.render

end SchemaWriter

def main (arguments : List String) : IO UInt32 := do
  if arguments.isEmpty then
    SchemaWriter.answer
    return 0
  match SchemaWriter.Command.Arguments.parse arguments with
  | some arguments => SchemaWriter.Command.run SchemaWriter.machine arguments
  | none => do
    (← IO.getStderr).putStr SchemaWriter.usage
    return 2
