import SchemaWriter.Proofs.Fragment.Imports

namespace SchemaWriter

open Outcome

inductive Expression : String → Prop where
  | null : Expression "null"
  | now : Expression "new Date()"
  | nowText : Expression "new Date().toISOString()"
  | date (value : String) : Expression ("new Date(" ++ Literal.quote value ++ ")")
  | bytes (value : String) : Expression ("Buffer.from(" ++ Literal.quote value ++ ", 'base64')")

namespace Fragment

inductive IsLiteral : Fragment → Prop where
  | string (value : String) : IsLiteral (.string value)
  | integer (value : Int) : IsLiteral (.integer value)
  | float (value : Binary64) : IsLiteral (.float value)
  | boolean (value : Bool) : IsLiteral (.boolean value)
  | verbatim {source : String} (h : Expression source) : IsLiteral (.verbatim source)
  | bigInt (value : String) : IsLiteral (.invoke "BigInt" [.string value])
  | array {items : List Fragment} (h : ∀ item ∈ items, IsLiteral item) : IsLiteral (.array items)
  | record {properties : List (String × Fragment)}
    (h : ∀ property ∈ properties, IsLiteral property.2) : IsLiteral (.record properties)

def Inert (fragment : Fragment) : Prop :=
  fragment.imports = [] ∧ fragment.lambdas = []

theorem IsLiteral.inert {fragment : Fragment} (h : fragment.IsLiteral) : fragment.Inert := by
  induction h with
  | string | integer | float | boolean | verbatim => exact ⟨rfl, rfl⟩
  | bigInt value => exact ⟨by simp, by simp⟩
  | array _ ih =>
    rw [Inert, imports_array, lambdas_array, List.flatMap_eq_nil_iff, List.flatMap_eq_nil_iff]
    exact ⟨fun item hitem => (ih item hitem).1, fun item hitem => (ih item hitem).2⟩
  | record _ ih =>
    rw [Inert, imports_record, lambdas_record, List.flatMap_eq_nil_iff, List.flatMap_eq_nil_iff]
    exact ⟨fun property hproperty => (ih property hproperty).1,
      fun property hproperty => (ih property hproperty).2⟩

end Fragment

namespace Json

open Fragment (IsLiteral)

def properties (members : List (String × Json)) : List (String × Fragment) :=
  members.map fun (key, value) => (propertyKey key, value.fragment)

theorem memberEntries_eq (members : List (String × Json)) :
    memberEntries members = (properties members).map fun (key, value) => .property key value := by
  induction members with
  | nil => rfl
  | cons member members ih =>
    obtain ⟨key, value⟩ := member
    rw [memberEntries, ih]
    rfl

mutual

theorem isLiteral_fragment : ∀ value : Json, value.fragment.IsLiteral
  | .null => .verbatim .null
  | .bool value => .boolean value
  | .number (.integer value) => by
    simp only [fragment, Number.fragment]
    split
    · exact .integer value
    · exact .float _
  | .number (.float value) => .float value
  | .string value => .string value
  | .array items => .array (isLiteral_fragments items)
  | .object members => by
    rw [fragment, memberEntries_eq]
    exact .record (isLiteral_properties members)

theorem isLiteral_fragments : ∀ items : List Json, ∀ item ∈ fragments items, item.IsLiteral
  | [] => nofun
  | item :: items => List.forall_mem_cons.mpr ⟨isLiteral_fragment item, isLiteral_fragments items⟩

theorem isLiteral_properties :
    ∀ members : List (String × Json), ∀ property ∈ properties members, property.2.IsLiteral
  | [] => nofun
  | (_, value) :: members =>
    List.forall_mem_cons.mpr ⟨isLiteral_fragment value, isLiteral_properties members⟩

end

end Json

namespace Field

open Json (isLiteral_fragment)

theorem isLiteral_scalarLiteral {model : Model} {field : Field} {mode : DateMode} {value : Json}
    {scalar : Scalar} {fragment : Fragment}
    (h : scalarLiteral model field mode value scalar = .ok fragment) : fragment.IsLiteral := by
  unfold scalarLiteral at h
  cases scalar with
  | bigInt =>
    cases value <;> obtain rfl := Except.ok.inj h <;>
      first | exact .bigInt _ | exact isLiteral_fragment _
  | dateTime =>
    cases value <;> cases mode <;> obtain rfl := Except.ok.inj h <;>
      first | exact .verbatim (.date _) | exact isLiteral_fragment _
  | decimal =>
    cases value <;> obtain rfl := Except.ok.inj h <;>
      first | exact .string _ | exact isLiteral_fragment _
  | json =>
    cases value with
    | string s =>
      dsimp only at h
      split at h
      · exact Except.ok.inj h ▸ isLiteral_fragment _
      · simp at h
    | _ => exact Except.ok.inj h ▸ isLiteral_fragment _
  | bytes =>
    cases value <;> obtain rfl := Except.ok.inj h <;>
      first | exact .verbatim (.bytes _) | exact isLiteral_fragment _
  | int | float | string | boolean => exact Except.ok.inj h ▸ isLiteral_fragment value

theorem isLiteral_single {model : Model} {field : Field} {mode : DateMode} {value : Json}
    {fragment : Fragment}
    (h : (match field.columnType? with
      | some (.scalar scalar) => scalarLiteral model field mode value scalar
      | _ => .ok value.fragment) = .ok fragment) : fragment.IsLiteral := by
  split at h
  · exact isLiteral_scalarLiteral h
  · exact Except.ok.inj h ▸ isLiteral_fragment value

mutual

theorem isLiteral_literal {model : Model} {field : Field} {mode : DateMode} :
    ∀ {value : Json} {fragment : Fragment},
      literal model field mode value = .ok fragment → fragment.IsLiteral
  | .array items, _, h => by
    rw [literal] at h
    obtain ⟨fragments, hitems, rfl⟩ := map_eq_ok.mp h
    exact .array (isLiteral_literals hitems)
  | .null, _, h => isLiteral_single h
  | .bool _, _, h => isLiteral_single h
  | .number _, _, h => isLiteral_single h
  | .string _, _, h => isLiteral_single h
  | .object _, _, h => isLiteral_single h

theorem isLiteral_literals {model : Model} {field : Field} {mode : DateMode} :
    ∀ {values : List Json} {fragments : List Fragment},
      literals model field mode values = .ok fragments → ∀ fragment ∈ fragments, fragment.IsLiteral
  | [], _, h => by
    obtain rfl := Except.ok.inj h
    nofun
  | value :: values, _, h => by
    rw [literals] at h
    obtain ⟨first, hfirst, h⟩ := bind_eq_ok.mp h
    obtain ⟨rest, hrest, h⟩ := bind_eq_ok.mp h
    obtain rfl := pure_eq_ok.mp h
    exact List.forall_mem_cons.mpr ⟨isLiteral_literal hfirst, isLiteral_literals hrest⟩

end

end Field

end SchemaWriter
