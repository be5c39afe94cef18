import SchemaWriter.Proofs.Column.DateMode
import SchemaWriter.Proofs.Schema.Accepted

namespace SchemaWriter

open Outcome

namespace Schema

def under (schema : Schema) (config : Config) : Schema :=
  { schema with config }

section Under

variable (schema : Schema) (config : Config)

@[simp] theorem config_under : (schema.under config).config = config :=
  rfl

theorem resolveAll_under (fields : List (Model × Field)) :
    (schema.under config).resolveAll fields = schema.resolveAll fields := by
  induction fields with
  | nil => rfl
  | cons entry rest ih =>
    rw [resolveAll, resolveAll, ih]
    rfl

theorem relationEntries_under (model : Model) (fields : List Field) :
    (schema.under config).relationEntries model fields = schema.relationEntries model fields := by
  induction fields with
  | nil => rfl
  | cons field rest ih =>
    rw [relationEntries, relationEntries, ih]
    rfl

theorem relations?_under (model : Model) :
    (schema.under config).relations? model = schema.relations? model := by
  rw [relations?, relations?, relationEntries_under]

theorem Resolved.under {schema : Schema} (h : schema.Resolved) : (schema.under config).Resolved :=
  h

end Under

theorem ofDatamodel_under (config other : Config) (datamodel : Datamodel) :
    ofDatamodel other datamodel = (ofDatamodel config datamodel).map (·.under other) := by
  unfold ofDatamodel
  cases JoinTable.synthesize datamodel.models with
  | error failure => rfl
  | ok synthesized =>
    let schema : Schema := ⟨config, synthesized.1, synthesized.2, datamodel.enums⟩
    have hresolve := resolveAll_under schema other (JoinTable.relationFields schema.allModels)
    change (do
      (schema.under other).resolveAll (JoinTable.relationFields schema.allModels)
      return schema.under other) = Except.map _ (do
      schema.resolveAll (JoinTable.relationFields schema.allModels)
      return schema)
    rw [hresolve]
    cases schema.resolveAll (JoinTable.relationFields schema.allModels) <;> rfl

theorem declareRelations?_under {schema : Schema} {config : Config}
    (hquery : schema.config.relationalQuery = config.relationalQuery) (model : Model) :
    (schema.under config).declareRelations? model = schema.declareRelations? model := by
  rw [declareRelations?, declareRelations?, relations?_under, config_under, ← hquery]

section SameDialect

variable {schema : Schema} {config : Config} (hdialect : schema.config.dialect = config.dialect)
include hdialect

theorem declareEnums_under : (schema.under config).declareEnums = schema.declareEnums := by
  rw [declareEnums, declareEnums, config_under, ← hdialect]
  rfl

theorem declareTable_under (hmode : schema.config.dateMode = config.dateMode) (model : Model) :
    (schema.under config).declareTable model = schema.declareTable model := by
  rw [declareTable, declareTable, config_under, ← hdialect, ← hmode]

theorem declarations_under (hmode : schema.config.dateMode = config.dateMode)
    (hquery : schema.config.relationalQuery = config.relationalQuery) {d : Declarations}
    (h : schema.declarations = .ok d) : (schema.under config).declarations = .ok d := by
  rw [declarations_eq_ok, declareTables_eq_ok, declareAllRelations_eq_ok, declareJoins_eq_ok] at h ⊢
  simp only [declareTable_under hdialect hmode, declareRelations?_under hquery,
    declareEnums_under hdialect]
  exact h

theorem alike_declareTable (model : Model) :
    Alike (schema.declareTable model) ((schema.under config).declareTable model) := by
  rw [declareTable, declareTable, config_under, ← hdialect]
  exact (model.alike_declaration _ _ _).bind fun _ _ _ _ => .ok _ _

theorem alike_declareTables (models : List Model) :
    Alike (schema.declareTables models) ((schema.under config).declareTables models) := by
  induction models with
  | nil => exact .refl _
  | cons model rest ih =>
    rw [declareTables, declareTables]
    exact (alike_declareTable hdialect model).bind fun _ _ _ _ => ih.bind fun _ _ _ _ => .ok _ _

theorem alike_declareJoins (hresolved : schema.Resolved) {models : List Model}
    (hmodels : ∀ model ∈ models, model ∈ schema.allModels) :
    Alike (schema.declareJoins models) ((schema.under config).declareJoins models) := by
  induction models with
  | nil => exact .refl _
  | cons model rest ih =>
    obtain ⟨hmodel, hrest⟩ := List.forall_mem_cons.mp hmodels
    have hrelations : Alike (schema.declareRelations? model)
        ((schema.under config).declareRelations? model) :=
      .of_exists (hresolved.exists_declareRelations? hmodel)
        ((hresolved.under config).exists_declareRelations? hmodel)
    rw [declareJoins, declareJoins]
    refine (alike_declareTable hdialect model).bind fun _ _ _ _ => hrelations.bind fun _ _ _ _ => ?_
    exact (ih hrest).bind fun _ _ _ _ => .ok _ _

theorem Resolved.alike_declarations (hresolved : schema.Resolved) :
    Alike schema.declarations (schema.under config).declarations := by
  have hrelations : Alike (schema.declareAllRelations schema.models)
      ((schema.under config).declareAllRelations schema.models) :=
    .of_exists hresolved.exists_declareAllRelations
      (hresolved.under config).exists_declareAllRelations
  refine (alike_declareTables hdialect schema.models).bind fun _ _ _ _ => ?_
  refine hrelations.bind fun _ _ _ _ => ?_
  refine Alike.bind ?_ fun _ _ _ _ => .ok _ _
  exact alike_declareJoins hdialect hresolved fun _ => List.mem_append_right _

end SameDialect

end Schema

theorem Datamodel.alike_modules {config other : Config} (hdialect : config.dialect = other.dialect)
    (datamodel : Datamodel) : Alike (datamodel.modules config) (datamodel.modules other) := by
  unfold modules
  rw [Schema.ofDatamodel_under config other]
  cases hschema : Schema.ofDatamodel config datamodel with
  | error failure => exact .error failure
  | ok schema =>
    obtain ⟨joins, -, rfl, hresolved⟩ := Schema.ofDatamodel_eq_ok.mp hschema
    exact (hresolved.alike_declarations hdialect).bind fun _ _ _ _ => .ok _ _

theorem Datamodel.exists_modules_of_agree {config other : Config}
    (hdialect : config.dialect = other.dialect) (hmode : config.dateMode = other.dateMode)
    (hquery : config.relationalQuery = other.relationalQuery) {datamodel : Datamodel}
    {modules : List Module} (h : datamodel.modules config = .ok modules) :
    ∃ d : Declarations, d.modules config = modules ∧
      datamodel.modules other = .ok (d.modules other) := by
  obtain ⟨schema, d, hschema, hd, rfl⟩ := modules_eq_ok.mp h
  obtain rfl := Schema.config_of_ofDatamodel hschema
  refine ⟨d, rfl, modules_eq_ok.mpr ⟨schema.under other, d, ?_, ?_, rfl⟩⟩
  · rw [Schema.ofDatamodel_under schema.config other, hschema]
    rfl
  · exact Schema.declarations_under hdialect hmode hquery hd

end SchemaWriter
