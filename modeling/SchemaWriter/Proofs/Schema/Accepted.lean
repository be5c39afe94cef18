import SchemaWriter.Proofs.Column.Accepted
import SchemaWriter.Proofs.Schema.Written

namespace SchemaWriter

open Outcome

namespace Model

theorem mem_columns {model : Model} {field : Field} :
    field ∈ model.columns ↔ field ∈ model.fields ∧ field.kind ≠ .object := by
  simp [columns, Field.isRelation]

structure Accepted (dialect : Dialect) (model : Model) : Prop where
  columns : ∀ field ∈ model.fields, field.kind ≠ .object → field.Accepted dialect
  key : ∀ key, model.primaryKey = some key → ∀ name ∈ key.fields,
    ∃ column, model.field? name = some column ∧ column.kind ≠ .object

theorem exists_columnEntries_iff (dialect : Dialect) (mode : DateMode) (model : Model) :
    (∃ entries, model.columnEntries dialect mode model.columns = .ok entries) ↔
      ∀ field ∈ model.fields, field.kind ≠ .object → field.Accepted dialect := by
  simp only [columnEntries_eq_ok, exists_forall₂_iff, mem_columns, and_imp]
  refine forall₂_congr fun field _ => forall_congr' fun _ => ?_
  rw [← Field.exists_column_iff mode model]
  exact ⟨fun ⟨_, column, h, _⟩ => ⟨column, h⟩, fun ⟨column, h⟩ => ⟨_, column, h, rfl⟩⟩

theorem exists_keyArguments_iff (dialect : Dialect) (model : Model) :
    (∃ arguments, model.keyArguments dialect = .ok arguments) ↔
      ∀ key, model.primaryKey = some key → ∀ name ∈ key.fields, model.hasColumn name = true := by
  unfold keyArguments
  cases model.primaryKey with
  | none => simp
  | some key =>
    simp only [Option.some.injEq, forall_eq']
    split
    · rename_i hempty
      simp [List.isEmpty_iff.mp hempty]
    · simp only [map_eq_ok, compoundKey, bind_eq_ok, keyReferences_eq_ok, pure_eq_ok]
      constructor
      · rintro ⟨_, _, ⟨_, ⟨hcolumns, -⟩, -⟩, -⟩
        exact hcolumns
      · exact fun hcolumns => ⟨_, _, ⟨_, ⟨hcolumns, rfl⟩, rfl⟩, rfl⟩

theorem exists_declaration_iff {dialect : Dialect} (mode : DateMode) {model : Model} :
    (∃ table, model.declaration dialect mode = .ok table) ↔ model.Accepted dialect := by
  have hcolumns := exists_columnEntries_iff dialect mode model
  have hkey := exists_keyArguments_iff dialect model
  simp only [hasColumn_iff] at hkey
  simp only [declaration_eq_ok]
  constructor
  · rintro ⟨_, columns, key, hentries, harguments, rfl⟩
    exact ⟨hcolumns.mp ⟨columns, hentries⟩, hkey.mp ⟨key, harguments⟩⟩
  · intro h
    obtain ⟨columns, hentries⟩ := hcolumns.mpr h.columns
    obtain ⟨key, harguments⟩ := hkey.mpr h.key
    exact ⟨_, columns, key, hentries, harguments, rfl⟩

end Model

namespace Schema

theorem Resolved.exists_relations? {schema : Schema} (h : schema.Resolved) {model : Model}
    (hmodel : model ∈ schema.allModels) : ∃ relations, schema.relations? model = .ok relations := by
  obtain ⟨entries, hentries⟩ := h.exists_entries hmodel
  simp only [relations?, bind_eq_ok, hentries, Except.ok.injEq, exists_eq_left']
  split <;> exact ⟨_, rfl⟩

theorem Resolved.exists_declareRelations? {schema : Schema} (h : schema.Resolved) {model : Model}
    (hmodel : model ∈ schema.allModels) :
    ∃ option, schema.declareRelations? model = .ok option := by
  obtain ⟨relations, hrelations⟩ := h.exists_relations? hmodel
  unfold declareRelations?
  split
  · simp only [hrelations, bind_eq_ok, pure_eq_ok, Except.ok.injEq, exists_eq_left']
    exact ⟨_, rfl⟩
  · exact ⟨none, rfl⟩

theorem Resolved.exists_declareAllRelations {schema : Schema} (h : schema.Resolved) :
    ∃ relations, schema.declareAllRelations schema.models = .ok relations := by
  obtain ⟨found, hfound⟩ := exists_forall₂_iff.mpr fun model hmodel =>
    h.exists_declareRelations? (List.mem_append_left schema.joins hmodel)
  exact ⟨_, declareAllRelations_eq_ok.mpr ⟨found, hfound, rfl⟩⟩

theorem exists_declareTable_iff {schema : Schema} {model : Model} :
    (∃ one, schema.declareTable model = .ok one) ↔ model.Accepted schema.config.dialect := by
  rw [← Model.exists_declaration_iff schema.config.dateMode]
  simp only [declareTable_eq_ok]
  constructor
  · rintro ⟨_, table, h, -⟩
    exact ⟨table, h⟩
  · rintro ⟨table, h⟩
    exact ⟨_, table, h, rfl⟩

theorem Resolved.exists_declareJoins {schema : Schema} (h : schema.Resolved)
    (haccepted : ∀ model ∈ schema.joins, model.Accepted schema.config.dialect) :
    ∃ joins, schema.declareJoins schema.joins = .ok joins := by
  have hjoin : ∀ model ∈ schema.joins, ∃ join : DeclaredJoin,
      schema.declareTable model = .ok join.table ∧
        schema.declareRelations? model = .ok join.relations := by
    intro model hmodel
    obtain ⟨table, htable⟩ := exists_declareTable_iff.mpr (haccepted model hmodel)
    obtain ⟨relations, hrelations⟩ :=
      h.exists_declareRelations? (List.mem_append_right schema.models hmodel)
    exact ⟨⟨table, relations⟩, htable, hrelations⟩
  obtain ⟨joins, hjoins⟩ := exists_forall₂_iff.mpr hjoin
  exact ⟨joins, declareJoins_eq_ok.mpr hjoins⟩

end Schema

end SchemaWriter
