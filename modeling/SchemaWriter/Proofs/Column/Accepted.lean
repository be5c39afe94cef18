import SchemaWriter.Proofs.Column.Built
import SchemaWriter.Proofs.Json.Texts

namespace SchemaWriter

open Outcome

namespace Scalar

def names : List String :=
  ["Int", "Float", "String", "Boolean", "DateTime", "Decimal", "BigInt", "Json", "Bytes"]

theorem mem_names_iff {name : String} : name ∈ names ↔ ∃ scalar, ofName? name = some scalar := by
  unfold ofName?
  split <;> simp_all [names]

theorem ofName?_eq_json_iff {name : String} : ofName? name = some .json ↔ name = "Json" := by
  unfold ofName?
  split <;> simp_all

end Scalar

namespace Json

inductive Holds (text : String) : Json → Prop where
  | itself : Holds text (.string text)
  | item {items : List Json} {item : Json} (hitem : item ∈ items) (h : Holds text item) :
    Holds text (.array items)

theorem forall_holds_string_iff {s : String} {P : String → Prop} :
    (∀ text, Holds text (.string s) → P text) ↔ P s := by
  constructor
  · exact fun h => h s .itself
  · rintro h _ ⟨⟩
    exact h

theorem forall_holds_array_iff {items : List Json} {P : String → Prop} :
    (∀ text, Holds text (.array items) → P text) ↔
      ∀ item ∈ items, ∀ text, Holds text item → P text := by
  constructor
  · exact fun h item hitem text htext => h text (.item hitem htext)
  · intro h text htext
    cases htext with
    | item hitem htext => exact h _ hitem text htext

end Json

namespace Field

theorem columnType?_eq_json_iff {field : Field} :
    field.columnType? = some (.scalar .json) ↔ field.kind = .scalar ∧ field.type = "Json" := by
  rw [columnType?_eq_scalar_iff, Scalar.ofName?_eq_json_iff]

def AdmitsDefault (field : Field) (value : Json) : Prop :=
  field.kind = .scalar → field.type = "Json" → ∀ text, value.Holds text → Json.IsText text

theorem admitsDefault_array_iff {field : Field} {items : List Json} :
    field.AdmitsDefault (.array items) ↔ ∀ item ∈ items, field.AdmitsDefault item := by
  simp only [AdmitsDefault, Json.forall_holds_array_iff]
  constructor
  · exact fun h item hitem hkind htype => h hkind htype item hitem
  · exact fun h hkind htype item hitem => h item hitem hkind htype

theorem exists_scalarLiteral_json {model : Model} {field : Field} {mode : DateMode} {s : String} :
    (∃ fragment, scalarLiteral model field mode (.string s) .json = .ok fragment) ↔
      Json.IsText s := by
  rw [← Json.exists_read_iff]
  unfold scalarLiteral
  cases hread : Json.Decoder.text Json.Decoder.json (Json.glyphs s) <;> simp [hread]

theorem exists_scalarLiteral {model : Model} {field : Field} {mode : DateMode} {value : Json}
    {scalar : Scalar} (h : scalar = .json → ∀ s, value ≠ .string s) :
    ∃ fragment, scalarLiteral model field mode value scalar = .ok fragment := by
  unfold scalarLiteral
  cases scalar with
  | json =>
    cases value with
    | string s => exact absurd rfl (h rfl s)
    | _ => exact ⟨_, rfl⟩
  | bigInt | decimal | bytes => cases value <;> exact ⟨_, rfl⟩
  | dateTime => cases value <;> cases mode <;> exact ⟨_, rfl⟩
  | int | float | string | boolean => exact ⟨_, rfl⟩

theorem exists_single_iff {model : Model} {field : Field} {mode : DateMode} {value : Json}
    (hitems : ∀ items, value ≠ .array items) :
    (∃ fragment, literal model field mode value = .ok fragment) ↔ field.AdmitsDefault value := by
  rw [literal]
  · by_cases htext : field.columnType? = some (.scalar .json) ∧ ∃ s, value = .string s
    · obtain ⟨htype, s, rfl⟩ := htext
      obtain ⟨hkind, hname⟩ := columnType?_eq_json_iff.mp htype
      simp only [htype, exists_scalarLiteral_json, AdmitsDefault, hkind, hname, forall_const,
        Json.forall_holds_string_iff]
    · have hadmits : field.AdmitsDefault value := by
        intro hkind hname text hholds
        cases hholds with
        | itself => exact absurd ⟨columnType?_eq_json_iff.mpr ⟨hkind, hname⟩, text, rfl⟩ htext
        | item => exact absurd rfl (hitems _)
      refine iff_of_true ?_ hadmits
      split
      · rename_i scalar htype
        refine exists_scalarLiteral fun hjson s hs => htext ⟨?_, s, hs⟩
        rw [htype, hjson]
      · exact ⟨_, rfl⟩
  · exact hitems

mutual

theorem exists_literal_iff {model : Model} {field : Field} {mode : DateMode} :
    ∀ value : Json, (∃ fragment, literal model field mode value = .ok fragment) ↔
      field.AdmitsDefault value
  | .array items => by
    rw [admitsDefault_array_iff, ← exists_literals_iff items, literal]
    simp only [map_eq_ok]
    exact ⟨fun ⟨_, fragments, h, _⟩ => ⟨fragments, h⟩, fun ⟨fragments, h⟩ => ⟨_, fragments, h, rfl⟩⟩
  | .null => exists_single_iff (by simp)
  | .bool _ => exists_single_iff (by simp)
  | .number _ => exists_single_iff (by simp)
  | .string _ => exists_single_iff (by simp)
  | .object _ => exists_single_iff (by simp)

theorem exists_literals_iff {model : Model} {field : Field} {mode : DateMode} :
    ∀ items : List Json, (∃ fragments, literals model field mode items = .ok fragments) ↔
      ∀ item ∈ items, field.AdmitsDefault item
  | [] => by simp [literals]
  | item :: items => by
    rw [List.forall_mem_cons, ← exists_literal_iff item, ← exists_literals_iff items]
    simp only [literals, bind_eq_ok, pure_eq_ok]
    constructor
    · rintro ⟨_, first, hfirst, rest, hrest, rfl⟩
      exact ⟨⟨first, hfirst⟩, rest, hrest⟩
    · rintro ⟨⟨first, hfirst⟩, rest, hrest⟩
      exact ⟨_, first, hfirst, rest, hrest, rfl⟩

end

def Undirected (field : Field) : Prop :=
  ∀ documentation, field.documentation = some documentation →
    ∀ directives, Directives.parse documentation = .ok directives →
      directives.defaultExpression? = none

structure Accepted (dialect : Dialect) (field : Field) : Prop where
  documented : ∀ documentation, field.documentation = some documentation →
    ∃ directives, Directives.parse documentation = .ok directives
  typed : field.kind = .scalar ∧ field.type ∈ Scalar.names ∨ field.kind = .enum
  enum : field.kind = .enum → dialect ≠ .sqlite
  list : field.isList = true → dialect = .postgres
  json : field.kind = .scalar → field.type = "Json" → field.Undirected →
    ∀ value, field.defaultValue = some (.literal value) →
      ∀ text, value.json.Holds text → Json.IsText text

theorem exists_directives_iff {model : Model} {field : Field} :
    (∃ directives, field.directives model = .ok directives) ↔
      ∀ documentation, field.documentation = some documentation →
        ∃ directives, Directives.parse documentation = .ok directives := by
  unfold Field.directives
  cases field.documentation with
  | none => simp
  | some documentation => simp [mapError_eq_ok]

theorem undirected_iff {model : Model} {field : Field} {directives : Directives}
    (h : field.directives model = .ok directives) :
    field.Undirected ↔ directives.defaultExpression? = none := by
  unfold Field.directives at h
  unfold Undirected
  cases hdocumentation : field.documentation with
  | none =>
    rw [hdocumentation] at h
    obtain rfl := Except.ok.inj h
    exact iff_of_true nofun rfl
  | some documentation =>
    rw [hdocumentation] at h
    have hparse := mapError_eq_ok.mp h
    constructor
    · exact fun hall => hall documentation rfl directives hparse
    · rintro hnone _ ⟨⟩ other hother
      obtain rfl := Except.ok.inj (hparse.symm.trans hother)
      exact hnone

theorem exists_constructorCall_iff {dialect : Dialect} {model : Model} {mode : DateMode}
    {field : Field} : (∃ call, field.constructorCall dialect model mode = .ok call) ↔
      (field.kind = .scalar ∧ field.type ∈ Scalar.names ∨ field.kind = .enum) ∧
        (field.kind = .enum → dialect ≠ .sqlite) := by
  rw [Scalar.mem_names_iff]
  unfold constructorCall columnType?
  cases hkind : field.kind with
  | scalar => cases Scalar.ofName? field.type <;> simp
  | enum => cases dialect <;> simp [Dialect.hasEnums]
  | object | unsupported => simp

theorem exists_listModifiers_iff {dialect : Dialect} {model : Model} {field : Field} :
    (∃ list, field.listModifiers dialect model = .ok list) ↔
      (field.isList = true → dialect = .postgres) := by
  unfold listModifiers
  cases field.isList <;> cases dialect <;> simp [Dialect.hasLists]

theorem exists_defaultModifiers_iff {model : Model} {field : Field} {directives : Directives}
    {mode : DateMode} :
    (∃ modifiers, field.defaultModifiers model directives mode = .ok modifiers) ↔
      (directives.defaultExpression? = none →
        ∀ value, field.defaultValue = some (.literal value) → field.AdmitsDefault value.json) := by
  unfold defaultModifiers
  cases directives.defaultExpression? with
  | some default => simp
  | none =>
    dsimp only
    split
    case h_5 value hvalue =>
      rw [hvalue]
      simp only [map_eq_ok, forall_const, Option.some.injEq, DefaultValue.literal.injEq,
        forall_eq', ← @exists_literal_iff model field mode value.json]
      exact ⟨fun ⟨_, fragment, h, _⟩ => ⟨fragment, h⟩, fun ⟨fragment, h⟩ => ⟨_, fragment, h, rfl⟩⟩
    all_goals
      rename_i hvalue
      simp [hvalue]

theorem exists_column_iff {dialect : Dialect} (mode : DateMode) (model : Model) {field : Field} :
    (∃ column, field.column dialect mode model = .ok column) ↔ field.Accepted dialect := by
  simp only [column_eq_ok]
  constructor
  · rintro ⟨_, directives, call, list, default, hdirectives, hcall, hlist, hdefault, rfl⟩
    obtain ⟨htyped, henum⟩ := exists_constructorCall_iff.mp ⟨call, hcall⟩
    have hadmits := exists_defaultModifiers_iff.mp ⟨default, hdefault⟩
    exact ⟨exists_directives_iff.mp ⟨directives, hdirectives⟩, htyped, henum,
      exists_listModifiers_iff.mp ⟨list, hlist⟩, fun hkind htype hundirected value hvalue =>
        hadmits ((undirected_iff hdirectives).mp hundirected) value hvalue hkind htype⟩
  · intro h
    obtain ⟨directives, hdirectives⟩ := exists_directives_iff.mpr h.documented
    obtain ⟨call, hcall⟩ := exists_constructorCall_iff.mpr ⟨h.typed, h.enum⟩
    obtain ⟨list, hlist⟩ := exists_listModifiers_iff.mpr h.list
    obtain ⟨default, hdefault⟩ := exists_defaultModifiers_iff.mpr fun hnone value hvalue hkind htype =>
      h.json hkind htype ((undirected_iff hdirectives).mpr hnone) value hvalue
    exact ⟨_, directives, call, list, default, hdirectives, hcall, hlist, hdefault, rfl⟩

end Field

end SchemaWriter
