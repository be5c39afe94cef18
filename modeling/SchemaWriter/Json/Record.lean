import SchemaWriter.Json.Decoder

namespace SchemaWriter.Json

inductive Presence where
  | required
  | optional
  | defaulted
  deriving DecidableEq, Repr

structure Slot (α : Type) where
  key : String
  presence : Presence
  read : Nat → Draft → α → Except Fault α

def Slot.of {α β : Type} (key : String) (presence : Presence) (decoder : Decoder β)
    (put : β → α → α) : Slot α :=
  ⟨key, presence, fun depth draft record => return put (← decoder depth draft) record⟩

structure Record (α : Type) where
  name : String
  strict : Bool
  start : α
  slots : List (Slot α)

namespace Record

variable {α : Type}

def keys (r : Record α) : List String :=
  r.slots.map (·.key)

def missing? (r : Record α) (seen : List String) : Option String :=
  (r.slots.find? fun slot => slot.presence = .required && !seen.contains slot.key).map (·.key)

def readMembers (r : Record α) (depth : Nat) (seen : List String) (record : α) :
    List (Draft × Draft) → Except Fault α
  | [] => match r.missing? seen with
    | some key => .error (.missingField key)
    | none => .ok record
  | (.string (some key), draft) :: rest =>
    match r.slots.find? fun slot => slot.key = key with
    | some slot =>
      -- A repeated key is told before its value is read.
      if seen.contains key then .error (.duplicateField key)
      else do readMembers r depth (key :: seen) (← slot.read depth draft record) rest
    | none =>
      if r.strict then .error (.unknownField key r.keys)
      else if draft.whole then readMembers r depth seen record rest
      else .error .malformed
  | _ :: _ => .error .malformed

def readItems (r : Record α) (depth count : Nat) (record : α) :
    List (Slot α) → List Draft → Except Fault α
  | [], [] => .ok record
  | [], _ :: _ => .error .malformed
  | slot :: slots, [] =>
    if slot.presence = .defaulted then readItems r depth (count + 1) record slots []
    else .error (.wrongLength count r.name r.slots.length)
  | slot :: slots, item :: items => do
    readItems r depth (count + 1) (← slot.read depth item record) slots items

def decoder (r : Record α) : Decoder α
  | 0, .array _ => .error .malformed
  | 0, .object _ => .error .malformed
  | depth + 1, .array items => r.readItems depth 0 r.start r.slots items
  | depth + 1, .object members => r.readMembers depth [] r.start members
  | _, draft => draft.refuse ("struct " ++ r.name)

end Record

end SchemaWriter.Json
