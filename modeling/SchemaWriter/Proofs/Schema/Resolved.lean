import SchemaWriter.Proofs.Relation.Turned
import SchemaWriter.Schema.Basic

namespace SchemaWriter

open Outcome

def Config.ofDialect (dialect : Dialect) : Config where
  dialect := dialect
  output := defaultOutput
  relationalQuery := true
  dateMode := .date
  resolution := .bundler

def Config.inFile (config : Config) (output : String) : Config :=
  { config with output }

theorem Model.hasColumn_iff {model : Model} {name : String} : model.hasColumn name = true ↔
    ∃ column, model.field? name = some column ∧ column.kind ≠ .object := by
  simp [hasColumn, Option.any_eq_true, Field.isRelation]

theorem missingColumn?_eq_none {model : Model} {names : List String} :
    Field.missingColumn? model names = none ↔ ∀ name ∈ names, model.hasColumn name = true := by
  simp [Field.missingColumn?, List.find?_eq_none]

namespace Field

@[simp] theorem relation_related (field : Field) : field.relation.related = field.type :=
  rfl

@[simp] theorem relation_fromFields (field : Field) :
    field.relation.fromFields = field.relationFromFields :=
  rfl

@[simp] theorem relation_toFields (field : Field) :
    field.relation.toFields = field.relationToFields :=
  rfl

theorem resolve_eq_ok {models : List Model} {model related : Model} {field : Field} :
    field.resolve models model = .ok related ↔
      findModel? models field.type = some related ∧
      (field.relation.isHolder = true →
        field.relationFromFields.length = field.relationToFields.length ∧
        (∀ name ∈ field.relationFromFields, model.hasColumn name = true) ∧
        ∀ name ∈ field.relationToFields, related.hasColumn name = true) ∧
      (field.relation.isHolder = false → ∃ other, field.opposite? model related = some other) := by
  simp only [resolve, relation_related, relation_fromFields, relation_toFields]
  cases findModel? models field.type with
  | none => simp
  | some target =>
    cases hholder : field.relation.isHolder with
    | true =>
      simp only [if_true, ← missingColumn?_eq_none, Option.some.injEq]
      by_cases hlength : field.relationFromFields.length = field.relationToFields.length
      · cases hfrom : missingColumn? model field.relationFromFields with
        | some name => simp [hlength]
        | none =>
          cases hto : missingColumn? target field.relationToFields with
          | some name =>
            simp only [hlength, ne_eq, not_true, if_false, reduceCtorEq, false_iff]
            rintro ⟨rfl, h, -⟩
            simp [hto] at h
          | none =>
            simp only [hlength, ne_eq, not_true, if_false, Except.ok.injEq]
            constructor
            · rintro rfl
              exact ⟨rfl, fun _ => ⟨trivial, trivial, hto⟩, by simp⟩
            · exact fun h => h.1
      · simp [hlength]
    | false =>
      simp only [Bool.false_eq_true, if_false, Option.some.injEq]
      cases hopposite : field.opposite? model target with
      | none =>
        simp only [Option.isSome_none, Bool.false_eq_true, if_false, reduceCtorEq, false_iff]
        rintro ⟨rfl, -, h⟩
        simp [hopposite] at h
      | some other =>
        simp only [Option.isSome_some, if_true, Except.ok.injEq]
        constructor
        · rintro rfl
          exact ⟨rfl, by simp, fun _ => ⟨other, hopposite⟩⟩
        · exact fun h => h.1

end Field

namespace Schema

theorem resolveAll_eq_ok {schema : Schema} {fields : List (Model × Field)} :
    schema.resolveAll fields = .ok () ↔
      ∀ entry ∈ fields, ∃ related, entry.2.resolve schema.allModels entry.1 = .ok related := by
  induction fields with
  | nil => simp [resolveAll]
  | cons entry rest ih =>
    obtain ⟨model, field⟩ := entry
    simp only [resolveAll, bind_eq_ok, ih, resolve, mapError_eq_ok, List.forall_mem_cons]
    constructor
    · rintro ⟨related, h, hrest⟩
      exact ⟨⟨related, h⟩, hrest⟩
    · rintro ⟨⟨related, h⟩, hrest⟩
      exact ⟨related, h, hrest⟩

def joined (config : Config) (datamodel : Datamodel) (joins : List JoinTable) : Schema where
  config := config
  models := datamodel.models.map (JoinTable.turnModel joins)
  joins := joins.map (·.table)
  enums := datamodel.enums

def Resolved (schema : Schema) : Prop :=
  ∀ model ∈ schema.allModels, ∀ field ∈ model.relationFields,
    ∃ related, field.resolve schema.allModels model = .ok related

theorem ofDatamodel_eq_ok {config : Config} {datamodel : Datamodel} {schema : Schema} :
    ofDatamodel config datamodel = .ok schema ↔ ∃ joins,
      JoinTable.ofModels datamodel.models = .ok joins ∧ schema = joined config datamodel joins ∧
      schema.Resolved := by
  unfold ofDatamodel JoinTable.synthesize
  simp only [bind_eq_ok, pure_eq_ok]
  constructor
  · rintro ⟨_, ⟨joins, hjoins, rfl⟩, ⟨⟩, hresolved, rfl⟩
    refine ⟨joins, hjoins, rfl, fun model hmodel field hfield => ?_⟩
    exact resolveAll_eq_ok.mp hresolved (model, field)
      (JoinTable.mem_relationFields.mpr ⟨hmodel, hfield⟩)
  · rintro ⟨joins, hjoins, rfl, hresolved⟩
    refine ⟨_, ⟨joins, hjoins, rfl⟩, (), resolveAll_eq_ok.mpr ?_, rfl⟩
    rintro ⟨model, field⟩ hmem
    obtain ⟨hmodel, hfield⟩ := JoinTable.mem_relationFields.mp hmem
    exact hresolved model hmodel field hfield

end Schema

end SchemaWriter
