import SchemaWriter.Json.Draft
import SchemaWriter.Json.Fault
import SchemaWriter.Json.Basic

namespace SchemaWriter.Json

abbrev Decoder (α : Type) := Nat → Draft → Except Fault α

def maxDepth : Nat := 127

namespace Draft

def found : Draft → Except Fault Found
  | .cut => .error .malformed
  | .null => .ok .null
  | .bool b => .ok (.bool b)
  | .number n => match n.value? with
    | some value => .ok (.number value)
    | none => .error .malformed
  | .string (some s) => .ok (.string s)
  | .string none => .error .malformed
  | .array _ => .ok .sequence
  | .object _ => .ok .map

def refuse {α : Type} (wanted : String) (draft : Draft) : Except Fault α := do
  throw (.wrongType (← draft.found) wanted)

mutual

def json? : Nat → Draft → Option Ordered
  | _, .cut => none
  | _, .null => some .null
  | _, .bool b => some (.bool b)
  | _, .number n => n.value?.map .number
  | _, .string s => s.map .string
  | 0, .array _ => none
  | depth + 1, .array items => (jsonItems? depth items).map .array
  | 0, .object _ => none
  | depth + 1, .object members => (jsonMembers? depth members).map .object

def jsonItems? : Nat → List Draft → Option (List Ordered)
  | _, [] => some []
  | depth, item :: items =>
    match item.json? depth, jsonItems? depth items with
    | some value, some values => some (value :: values)
    | _, _ => none

def jsonMembers? : Nat → List (Draft × Draft) → Option (List (String × Ordered))
  | _, [] => some []
  | depth, (.string (some key), value) :: members =>
    match value.json? depth, jsonMembers? depth members with
    | some value, some rest => some ((key, value) :: rest)
    | _, _ => none
  | _, _ :: _ => none

end

end Draft

namespace Decoder

def json : Decoder Ordered := fun depth draft =>
  match draft.json? depth with
  | some value => .ok value
  | none => .error .malformed

def string : Decoder String
  | _, .string (some s) => .ok s
  | _, draft => draft.refuse "a string"

def bool : Decoder Bool
  | _, .bool b => .ok b
  | _, draft => draft.refuse "a boolean"

def option {α : Type} (decoder : Decoder α) : Decoder (Option α)
  | _, .null => .ok none
  | depth, draft => return some (← decoder depth draft)

def items {α : Type} (decoder : Decoder α) (depth : Nat) : List Draft → Except Fault (List α)
  | [] => .ok []
  | item :: rest => do
    let value ← decoder depth item
    return value :: (← items decoder depth rest)

def list {α : Type} (decoder : Decoder α) : Decoder (List α)
  | 0, .array _ => .error .malformed
  | depth + 1, .array drafts => items decoder depth drafts
  | _, draft => draft.refuse "a sequence"

def pairs {α : Type} (decoder : Decoder α) (depth : Nat) :
    List (Draft × Draft) → Except Fault (List (String × α))
  | [] => .ok []
  | (.string (some key), draft) :: rest => do
    let value ← decoder depth draft
    return (key, value) :: (← pairs decoder depth rest)
  | _ :: _ => .error .malformed

def dictionary {α : Type} (decoder : Decoder α) : Decoder (List (String × α))
  | 0, .object _ => .error .malformed
  | depth + 1, .object members => return sortByKey (← pairs decoder depth members)
  | _, draft => draft.refuse "a map"

def variant {α : Type} (known : List (String × α)) : Decoder α := fun depth draft =>
  let choose (name : String) : Except Fault α :=
    match known.lookup name with
    | some value => .ok value
    | none => .error (.unknownVariant name (known.map (·.1)))
  match depth, draft with
  | _, .string (some name) => choose name
  | _ + 1, .object ((.string (some name), content) :: rest) => do
    let value ← choose name
    match content, rest with
    | .null, [] => return value
    | .null, _ => throw .malformed
    | content, _ => content.refuse "unit"
  | _, _ => .error .malformed

def text {α : Type} (decoder : Decoder α) (glyphs : List Glyph) : Except Fault α :=
  match Draft.ofGlyphs glyphs with
  | (draft, ended) => do
    let value ← decoder maxDepth draft
    if ended then return value else throw .malformed

end Decoder

end SchemaWriter.Json
