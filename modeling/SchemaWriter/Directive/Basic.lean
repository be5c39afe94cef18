import SchemaWriter.Directive.Payload
import SchemaWriter.Text.Basic

namespace SchemaWriter

structure Directives where
  custom : Option Directive.CustomType := none
  default : Option Directive.DefaultExpression := none
  dateMode : Option DateMode := none
  deriving DecidableEq, Repr

namespace Directives

open SchemaWriter.Directive

def defaultExpression? (d : Directives) : Option DefaultExpression :=
  match d.default with
  | some default => some default
  | none => d.custom.bind fun custom => custom.default.map fun e => ⟨custom.imports, e⟩

def has (d : Directives) : Tag → Bool
  | .custom => d.custom.isSome
  | .default => d.default.isSome
  | .dateMode => d.dateMode.isSome

def leader : List Char := "drizzle.".toList

def recognize (line : List Char) : Option (Tag × String) :=
  let line := Text.trim line
  if leader.isPrefixOf line then
    let (word, payload) := (line.drop leader.length).span (!Text.isBlank ·)
    (Tag.ofName? (String.ofList word)).map fun tag => (tag, String.ofList (Text.trim payload))
  else none

def put (d : Directives) (payload : String) : Tag → Except Fault Directives
  | .custom => do
    return { d with custom := some (← (readCustom payload).mapError (.malformed .custom)) }
  | .default => do
    return { d with default := some (← (readDefault payload).mapError (.malformed .default)) }
  | .dateMode => match DateMode.ofName? payload with
    | some mode => .ok { d with dateMode := some mode }
    | none => .error (.dateMode payload)

def add (d : Directives) (tag : Tag) (payload : String) : Except Fault Directives :=
  if payload.isEmpty then .error (.missingPayload tag)
  else if d.has tag then .error (.duplicate tag)
  else d.put payload tag

def addAll (d : Directives) : List (Tag × String) → Except Fault Directives
  | [] => .ok d
  | (tag, payload) :: rest => do addAll (← d.add tag payload) rest

def recognized (documentation : String) : List (Tag × String) :=
  (Text.splitWhere (· = '\n') documentation.toList).filterMap recognize

def parse (documentation : String) : Except Fault Directives :=
  addAll {} (recognized documentation)

end Directives

end SchemaWriter
