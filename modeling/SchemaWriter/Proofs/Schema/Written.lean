import SchemaWriter.Proofs.Schema.Declared
import SchemaWriter.Schema.Modules

namespace SchemaWriter

open Outcome

namespace Schema

theorem declareTable_eq_ok {schema : Schema} {model : Model} {one : Declared} :
    schema.declareTable model = .ok one ↔ ∃ table,
      model.declaration schema.config.dialect schema.config.dateMode = .ok table ∧
      ⟨Naming.tableModule model.name, table⟩ = one := by
  simp only [declareTable, bind_eq_ok, pure_eq_ok]

theorem declareRelations?_eq_some {schema : Schema} {model : Model} {one : Declared} :
    schema.declareRelations? model = .ok (some one) ↔ schema.config.relationalQuery = true ∧
      ∃ fragment, schema.relations? model = .ok (some fragment) ∧
        ⟨Naming.relationsModule model.name, fragment⟩ = one := by
  unfold declareRelations?
  split
  · rename_i hquery
    simp only [bind_eq_ok, pure_eq_ok, Option.map_eq_some_iff, hquery, true_and]
    constructor
    · rintro ⟨_, hfragment, fragment, rfl, rfl⟩
      exact ⟨fragment, hfragment, rfl⟩
    · rintro ⟨fragment, hfragment, rfl⟩
      exact ⟨_, hfragment, fragment, rfl, rfl⟩
  · rename_i hquery
    simp [hquery, pure, Except.pure]

theorem mem_declareEnums {schema : Schema} {one : Declared} :
    one ∈ schema.declareEnums ↔ ∃ enum ∈ schema.enums, ∃ fragment,
      enum.declaration? schema.config.dialect = some fragment ∧
      ⟨Naming.enumModule enum.name, fragment⟩ = one := by
  simp [declareEnums]

theorem declareTables_eq_ok {schema : Schema} {models : List Model} {tables : List Declared} :
    schema.declareTables models = .ok tables ↔
      List.Forall₂ (fun model one => schema.declareTable model = .ok one) models tables :=
  traversal_eq_ok (f := schema.declareTable) (g := schema.declareTables) rfl fun _ _ => rfl

theorem declareAllRelations_eq_ok {schema : Schema} {models : List Model}
    {relations : List Declared} :
    schema.declareAllRelations models = .ok relations ↔ ∃ found,
      List.Forall₂ (fun model one => schema.declareRelations? model = .ok one) models found ∧
      found.flatMap Option.toList = relations := by
  induction models generalizing relations with
  | nil => simp [declareAllRelations]
  | cons model rest ih =>
    simp only [declareAllRelations, bind_eq_ok, pure_eq_ok, ih, List.forall₂_cons_left_iff]
    constructor
    · rintro ⟨first, hfirst, _, ⟨others, hothers, rfl⟩, rfl⟩
      exact ⟨first :: others, ⟨first, others, hfirst, hothers, rfl⟩, rfl⟩
    · rintro ⟨_, ⟨first, others, hfirst, hothers, rfl⟩, rfl⟩
      exact ⟨first, hfirst, _, ⟨others, hothers, rfl⟩, rfl⟩

theorem declareJoins_eq_ok {schema : Schema} {models : List Model} {joins : List DeclaredJoin} :
    schema.declareJoins models = .ok joins ↔
      List.Forall₂ (fun model join => schema.declareTable model = .ok join.table ∧
        schema.declareRelations? model = .ok join.relations) models joins := by
  rw [traversal_eq_ok (g := schema.declareJoins)
    (f := fun model => return ⟨← schema.declareTable model, ← schema.declareRelations? model⟩) rfl]
  · refine iff_of_eq (congrArg (fun R => List.Forall₂ R models joins) ?_)
    funext model ⟨table, relations⟩
    simp only [bind_eq_ok, pure_eq_ok, DeclaredJoin.mk.injEq, eq_iff_iff]
    constructor
    · rintro ⟨_, htable, _, hrelations, rfl, rfl⟩
      exact ⟨htable, hrelations⟩
    · rintro ⟨htable, hrelations⟩
      exact ⟨_, htable, _, hrelations, rfl, rfl⟩
  · intro model rest
    simp [declareJoins]

theorem declarations_eq_ok {schema : Schema} {d : Declarations} :
    schema.declarations = .ok d ↔ schema.declareTables schema.models = .ok d.tables ∧
      schema.declareAllRelations schema.models = .ok d.relations ∧
      schema.declareJoins schema.joins = .ok d.joins ∧ d.enums = schema.declareEnums := by
  obtain ⟨tables, enums, relations, joins⟩ := d
  simp only [declarations, bind_eq_ok, pure_eq_ok, Declarations.mk.injEq]
  constructor
  · rintro ⟨_, htables, _, hrelations, _, hjoins, rfl, rfl, rfl, rfl⟩
    exact ⟨htables, hrelations, hjoins, rfl⟩
  · rintro ⟨htables, hrelations, hjoins, rfl⟩
    exact ⟨_, htables, _, hrelations, _, hjoins, rfl, rfl, rfl, rfl⟩

inductive Origin (schema : Schema) (one : Declared) : Prop where
  | table (model : Model) (hmodel : model ∈ schema.allModels)
      (h : schema.declareTable model = .ok one)
  | enum (h : one ∈ schema.declareEnums)
  | relations (model : Model) (hmodel : model ∈ schema.allModels)
      (h : schema.declareRelations? model = .ok (some one))

theorem mem_modular {d : Declarations} {one : Declared} :
    one ∈ d.modular ↔ one ∈ d.tables ∨ one ∈ d.enums ∨ one ∈ d.relations ∨
      ∃ join ∈ d.joins, one = join.table ∨ join.relations = some one := by
  simp [Declarations.modular]

theorem mem_sequential {d : Declarations} {one : Declared} :
    one ∈ d.sequential ↔ one ∈ d.modular := by
  rw [mem_modular]
  simp only [Declarations.sequential, List.mem_append, List.mem_map, List.mem_filterMap]
  constructor
  · rintro ((((h | h) | ⟨join, hjoin, rfl⟩) | h) | ⟨join, hjoin, hone⟩)
    · exact .inr (.inl h)
    · exact .inl h
    · exact .inr (.inr (.inr ⟨join, hjoin, .inl rfl⟩))
    · exact .inr (.inr (.inl h))
    · exact .inr (.inr (.inr ⟨join, hjoin, .inr hone⟩))
  · rintro (h | h | h | ⟨join, hjoin, rfl | hone⟩)
    · exact .inl (.inl (.inl (.inr h)))
    · exact .inl (.inl (.inl (.inl h)))
    · exact .inl (.inr h)
    · exact .inl (.inl (.inr ⟨join, hjoin, rfl⟩))
    · exact .inr ⟨join, hjoin, hone⟩

theorem origin_of_mem {schema : Schema} {d : Declarations} (h : schema.declarations = .ok d)
    {one : Declared} (hone : one ∈ d.modular) : schema.Origin one := by
  obtain ⟨htables, hrelations, hjoins, henums⟩ := declarations_eq_ok.mp h
  rcases mem_modular.mp hone with hone | hone | hone | ⟨join, hjoin, hone⟩
  · obtain ⟨model, hmodel, htable⟩ := exists_of_mem_right (declareTables_eq_ok.mp htables) hone
    exact .table model (List.mem_append_left _ hmodel) htable
  · exact .enum (henums ▸ hone)
  · obtain ⟨found, hfound, hflat⟩ := declareAllRelations_eq_ok.mp hrelations
    rw [← hflat] at hone
    obtain ⟨option, hoption, hone⟩ := List.mem_flatMap.mp hone
    obtain ⟨model, hmodel, hrelation⟩ := exists_of_mem_right hfound hoption
    rw [Option.mem_toList] at hone
    exact .relations model (List.mem_append_left _ hmodel) (hone ▸ hrelation)
  · obtain ⟨model, hmodel, htable, hrelation⟩ :=
      exists_of_mem_right (declareJoins_eq_ok.mp hjoins) hjoin
    rcases hone with rfl | hone
    · exact .table model (List.mem_append_right _ hmodel) htable
    · exact .relations model (List.mem_append_right _ hmodel) (hone ▸ hrelation)

theorem exists_table {schema : Schema} {d : Declarations} (h : schema.declarations = .ok d)
    {model : Model} (hmodel : model ∈ schema.allModels) :
    ∃ one ∈ d.modular, schema.declareTable model = .ok one := by
  obtain ⟨htables, -, hjoins, -⟩ := declarations_eq_ok.mp h
  rcases List.mem_append.mp hmodel with hmodel | hmodel
  · obtain ⟨one, hone, htable⟩ := exists_of_mem_left (declareTables_eq_ok.mp htables) hmodel
    exact ⟨one, mem_modular.mpr (.inl hone), htable⟩
  · obtain ⟨join, hjoin, htable, -⟩ := exists_of_mem_left (declareJoins_eq_ok.mp hjoins) hmodel
    exact ⟨join.table, mem_modular.mpr (.inr (.inr (.inr ⟨join, hjoin, .inl rfl⟩))), htable⟩

theorem exists_declareRelations {schema : Schema} {model : Model} {option : Option Declared}
    (hquery : schema.config.relationalQuery = true) (hfields : model.relationFields ≠ [])
    (h : schema.declareRelations? model = .ok option) : ∃ one, option = some one := by
  simp only [declareRelations?, hquery, if_true, relations?, bind_eq_ok, pure_eq_ok] at h
  obtain ⟨fragment, ⟨entries, hentries, hfragment⟩, rfl⟩ := h
  cases hentries' : entries with
  | nil =>
    rw [hentries', relationEntries_eq_ok, List.forall₂_nil_right_iff] at hentries
    exact absurd hentries hfields
  | cons entry rest =>
    simp only [hentries', List.isEmpty_cons, Bool.false_eq_true, if_false, pure_eq_ok] at hfragment
    obtain rfl := hfragment
    exact ⟨_, rfl⟩

theorem exists_relations {schema : Schema} {d : Declarations} (h : schema.declarations = .ok d)
    (hquery : schema.config.relationalQuery = true) {model : Model}
    (hmodel : model ∈ schema.allModels) (hfields : model.relationFields ≠ []) :
    ∃ one ∈ d.modular, schema.declareRelations? model = .ok (some one) := by
  obtain ⟨-, hrelations, hjoins, -⟩ := declarations_eq_ok.mp h
  rcases List.mem_append.mp hmodel with hmodel | hmodel
  · obtain ⟨found, hfound, hflat⟩ := declareAllRelations_eq_ok.mp hrelations
    obtain ⟨option, hoption, hdeclare⟩ := exists_of_mem_left hfound hmodel
    obtain ⟨one, rfl⟩ := exists_declareRelations hquery hfields hdeclare
    have hone : one ∈ d.relations := hflat ▸ List.mem_flatMap.mpr ⟨_, hoption, by simp⟩
    exact ⟨one, mem_modular.mpr (.inr (.inr (.inl hone))), hdeclare⟩
  · obtain ⟨join, hjoin, -, hdeclare⟩ := exists_of_mem_left (declareJoins_eq_ok.mp hjoins) hmodel
    obtain ⟨one, hone⟩ := exists_declareRelations hquery hfields hdeclare
    exact ⟨one, mem_modular.mpr (.inr (.inr (.inr ⟨join, hjoin, .inr hone⟩))), hone ▸ hdeclare⟩

theorem exists_enum {schema : Schema} {d : Declarations} (h : schema.declarations = .ok d)
    (henums : schema.config.dialect.hasEnums = true) {enum : EnumType}
    (henum : enum ∈ schema.enums) :
    ∃ one ∈ d.modular, one.module = Naming.enumModule enum.name ∧
      one.declaration.name? = some (Naming.enumBinding enum.name) := by
  obtain ⟨-, -, -, hd⟩ := declarations_eq_ok.mp h
  obtain ⟨fragment, hfragment⟩ := enum.declaration?_isSome henums
  refine ⟨⟨Naming.enumModule enum.name, fragment⟩, mem_modular.mpr (.inr (.inl ?_)), rfl,
    (EnumType.declaration?_eq_some hfragment).1⟩
  exact hd ▸ mem_declareEnums.mpr ⟨enum, henum, fragment, hfragment, rfl⟩

end Schema

theorem Datamodel.modules_eq_ok {config : Config} {datamodel : Datamodel} {modules : List Module} :
    datamodel.modules config = .ok modules ↔ ∃ schema d,
      Schema.ofDatamodel config datamodel = .ok schema ∧ schema.declarations = .ok d ∧
      d.modules config = modules := by
  simp only [Datamodel.modules, bind_eq_ok, pure_eq_ok]
  constructor
  · rintro ⟨schema, hschema, d, hd, rfl⟩
    exact ⟨schema, d, hschema, hd, rfl⟩
  · rintro ⟨schema, d, hschema, hd, rfl⟩
    exact ⟨schema, hschema, d, hd, rfl⟩

theorem Schema.config_of_ofDatamodel {config : Config} {datamodel : Datamodel} {schema : Schema}
    (h : Schema.ofDatamodel config datamodel = .ok schema) : schema.config = config := by
  obtain ⟨joins, -, rfl, -⟩ := Schema.ofDatamodel_eq_ok.mp h
  rfl

end SchemaWriter
