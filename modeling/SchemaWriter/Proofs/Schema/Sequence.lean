import Mathlib.Data.List.Forall2
import Mathlib.Data.List.Perm.Basic
import SchemaWriter.Proofs.Naming.Names
import SchemaWriter.Proofs.Schema.Written

namespace SchemaWriter

open Outcome

namespace Schema

def related (schema : Schema) : List Model :=
  schema.allModels.filter fun model =>
    schema.config.relationalQuery && !model.relationFields.isEmpty

def writtenEnums (schema : Schema) : List EnumType :=
  if schema.config.dialect.hasEnums then schema.enums else []

theorem related_sublist (schema : Schema) : schema.related.Sublist schema.allModels :=
  List.filter_sublist

theorem mem_related {schema : Schema} {model : Model} :
    model ∈ schema.related ↔ model ∈ schema.allModels ∧ schema.config.relationalQuery = true ∧
      model.relationFields ≠ [] := by
  simp [related]

theorem mem_writtenEnums {schema : Schema} {enum : EnumType} :
    enum ∈ schema.writtenEnums ↔ schema.config.dialect.hasEnums = true ∧ enum ∈ schema.enums := by
  simp [writtenEnums]

theorem isSome_of_declareRelations? {schema : Schema} {model : Model} {option : Option Declared}
    (h : schema.declareRelations? model = .ok option) :
    (schema.config.relationalQuery && !model.relationFields.isEmpty) = option.isSome := by
  cases option with
  | none =>
    by_contra hwritten
    have hquery : schema.config.relationalQuery = true ∧ model.relationFields ≠ [] := by
      simpa using hwritten
    obtain ⟨one, hone⟩ := exists_declareRelations hquery.1 hquery.2 h
    cases hone
  | some one =>
    obtain ⟨hquery, fragment, hfragment, -⟩ := declareRelations?_eq_some.mp h
    obtain ⟨entries, hentries, hne, -⟩ := relations?_eq_some.mp hfragment
    have hfields : model.relationFields ≠ [] := by
      intro hnil
      rw [hnil, relationEntries_eq_ok, List.forall₂_nil_left_iff] at hentries
      exact hne hentries
    simpa using And.intro hquery hfields

theorem declareEnums_forall₂ (schema : Schema) :
    List.Forall₂ (fun enum one => ∃ fragment,
      enum.declaration? schema.config.dialect = some fragment ∧
        ⟨Naming.enumModule enum.name, fragment⟩ = one) schema.writtenEnums schema.declareEnums := by
  cases henums : schema.config.dialect.hasEnums with
  | false =>
    have hnone : schema.config.dialect = .sqlite := by
      cases hdialect : schema.config.dialect <;> simp [hdialect, Dialect.hasEnums] at henums ⊢
    simp [writtenEnums, declareEnums, hnone, Dialect.hasEnums, EnumType.declaration?,
      Dialect.enumValue?]
  | true =>
    rw [writtenEnums, if_pos henums, declareEnums]
    induction schema.enums with
    | nil => exact .nil
    | cons enum enums ih =>
      obtain ⟨fragment, hfragment⟩ := enum.declaration?_isSome henums
      rw [List.filterMap_cons_some (by rw [hfragment]; rfl)]
      exact .cons ⟨fragment, hfragment, rfl⟩ ih

structure Sequence (schema : Schema) (tables relations : List Declared) : Prop where
  tables_written : List.Forall₂ (fun model one => schema.declareTable model = .ok one)
    schema.allModels tables
  relations_written : List.Forall₂
    (fun model one => schema.declareRelations? model = .ok (some one)) schema.related relations

theorem exists_sequence {schema : Schema} {d : Declarations} (h : schema.declarations = .ok d) :
    ∃ tables relations, schema.Sequence tables relations ∧
      d.sequential = schema.declareEnums ++ tables ++ relations := by
  obtain ⟨htables, hrelations, hjoins, henums⟩ := declarations_eq_ok.mp h
  obtain ⟨found, hfound, hflat⟩ := declareAllRelations_eq_ok.mp hrelations
  have hjoins := declareJoins_eq_ok.mp hjoins
  have hjoinTables : List.Forall₂ (fun model one => schema.declareTable model = .ok one)
      schema.joins (d.joins.map (·.table)) :=
    List.forall₂_map_right_iff.mpr (hjoins.imp fun _ _ h => h.1)
  have hjoinRelations : List.Forall₂
      (fun model option => schema.declareRelations? model = .ok option)
      schema.joins (d.joins.map (·.relations)) :=
    List.forall₂_map_right_iff.mpr (hjoins.imp fun _ _ h => h.2)
  refine ⟨d.tables ++ d.joins.map (·.table),
    (found ++ d.joins.map (·.relations)).filterMap id, ⟨?_, ?_⟩, ?_⟩
  · exact List.rel_append (declareTables_eq_ok.mp htables) hjoinTables
  · exact forall₂_filterMap (List.rel_append hfound hjoinRelations)
      fun model option => isSome_of_declareRelations?
  · rw [Declarations.sequential, henums, ← hflat, List.filterMap_append, List.filterMap_map,
      List.filterMap_eq_flatMap_toList (l := found)]
    simp only [List.append_assoc]
    rfl

theorem table_named {schema : Schema} {model : Model} {one : Declared}
    (h : schema.declareTable model = .ok one) : one.module = Naming.tableModule model.name ∧
      one.declaration.name? = some (Naming.tableBinding model.name) := by
  obtain ⟨table, htable, rfl⟩ := declareTable_eq_ok.mp h
  obtain ⟨columns, key, -, -, rfl⟩ := Model.declaration_eq_ok.mp htable
  exact ⟨rfl, rfl⟩

theorem relations_named {schema : Schema} {model : Model} {one : Declared}
    (h : schema.declareRelations? model = .ok (some one)) :
    one.module = Naming.relationsModule model.name ∧
      one.declaration.name? = some (Naming.relationsBinding model.name) := by
  obtain ⟨-, fragment, hfragment, rfl⟩ := declareRelations?_eq_some.mp h
  obtain ⟨entries, -, -, rfl⟩ := relations?_eq_some.mp hfragment
  exact ⟨rfl, rfl⟩

def names (schema : Schema) (enum table relations : String → String) : List String :=
  schema.writtenEnums.map (enum ·.name) ++ schema.allModels.map (table ·.name) ++
    schema.related.map (relations ·.name)

def moduleNames (schema : Schema) : List String :=
  schema.names Naming.enumModule Naming.tableModule Naming.relationsModule

def bindings (schema : Schema) : List String :=
  schema.names Naming.enumBinding Naming.tableBinding Naming.relationsBinding

theorem mem_names {schema : Schema} {enum table relations : String → String} {name : String} :
    name ∈ schema.names enum table relations ↔
      (∃ one ∈ schema.writtenEnums, enum one.name = name) ∨
      (∃ model ∈ schema.allModels, table model.name = name) ∨
      ∃ model ∈ schema.related, relations model.name = name := by
  simp only [names, List.mem_append, List.mem_map, or_assoc]

theorem nodup_names_iff {schema : Schema} {enum table relations : String → String}
    (henum : ∀ a b, enum a ≠ table b ∧ enum a ≠ relations b)
    (hrelations : ∀ a b, relations a = relations b → table a = table b) :
    (schema.names enum table relations).Nodup ↔
      (schema.writtenEnums.map (enum ·.name)).Nodup ∧
      (schema.allModels.map (table ·.name)).Nodup ∧
      ∀ model ∈ schema.allModels, ∀ other ∈ schema.related,
        table model.name ≠ relations other.name := by
  simp only [names, List.nodup_append, List.forall_mem_map, List.forall_mem_append]
  constructor
  · rintro ⟨⟨henums, htables, -⟩, -, -, hcross⟩
    exact ⟨henums, htables, hcross⟩
  · rintro ⟨henums, htables, hcross⟩
    have hrelated : (schema.related.map (relations ·.name)).Nodup := by
      have hdistinct := (List.pairwise_map.mp htables).sublist (related_sublist schema)
      refine hdistinct.map _ fun a b hne heq => hne ?_
      exact hrelations a.name b.name heq
    exact ⟨⟨henums, htables, fun one _ model _ => (henum one.name model.name).1⟩, hrelated,
      fun one _ model _ => (henum one.name model.name).2, hcross⟩

theorem map_module_sequential {schema : Schema} {d : Declarations}
    (h : schema.declarations = .ok d) : d.sequential.map (·.module) = schema.moduleNames := by
  obtain ⟨tables, relations, hsequence, hsequential⟩ := exists_sequence h
  rw [hsequential, moduleNames, names, List.map_append, List.map_append,
    map_eq_map_of_forall₂ (f := (Naming.enumModule ·.name)) schema.declareEnums_forall₂,
    map_eq_map_of_forall₂ (f := (Naming.tableModule ·.name)) hsequence.tables_written,
    map_eq_map_of_forall₂ (f := (Naming.relationsModule ·.name)) hsequence.relations_written]
  · exact fun model one hone => (relations_named hone).1
  · exact fun model one hone => (table_named hone).1
  · rintro enum one ⟨fragment, -, rfl⟩
    rfl

theorem map_name?_sequential {schema : Schema} {d : Declarations}
    (h : schema.declarations = .ok d) :
    d.sequential.map (·.declaration.name?) = schema.bindings.map some := by
  obtain ⟨tables, relations, hsequence, hsequential⟩ := exists_sequence h
  simp only [hsequential, bindings, names, List.map_append, List.map_map]
  rw [map_eq_map_of_forall₂ (f := some ∘ (Naming.enumBinding ·.name)) schema.declareEnums_forall₂,
    map_eq_map_of_forall₂ (f := some ∘ (Naming.tableBinding ·.name)) hsequence.tables_written,
    map_eq_map_of_forall₂ (f := some ∘ (Naming.relationsBinding ·.name))
      hsequence.relations_written]
  · exact fun model one hone => (relations_named hone).2
  · exact fun model one hone => (table_named hone).2
  · rintro enum one ⟨fragment, hfragment, rfl⟩
    exact (EnumType.declaration?_eq_some hfragment).1

theorem modular_perm_sequential (d : Declarations) : d.modular.Perm d.sequential := by
  have hjoins : (d.joins.flatMap fun join => join.table :: join.relations.toList).Perm
      (d.joins.map (·.table) ++ d.joins.filterMap (·.relations)) := by
    rw [List.filterMap_eq_flatMap_toList]
    exact (List.map_append_flatMap_perm d.joins _ _).symm
  have hfront : (d.tables ++ d.enums).Perm (d.enums ++ d.tables) := List.perm_append_comm
  rw [Declarations.modular, Declarations.sequential]
  refine ((hfront.append_right _).append hjoins).trans ?_
  simp only [List.append_assoc, List.perm_append_left_iff]
  rw [← List.append_assoc, ← List.append_assoc]
  exact List.perm_append_comm.append_right _

theorem forall_modular_iff {schema : Schema} {d : Declarations} (h : schema.declarations = .ok d)
    {P : Declared → Prop} : (∀ one ∈ d.modular, P one) ↔
      (∀ enum ∈ schema.writtenEnums, ∀ fragment,
        enum.declaration? schema.config.dialect = some fragment →
        P ⟨Naming.enumModule enum.name, fragment⟩) ∧
      (∀ model ∈ schema.allModels, ∀ one, schema.declareTable model = .ok one → P one) ∧
      ∀ model ∈ schema.related, ∀ one, schema.declareRelations? model = .ok (some one) → P one := by
  obtain ⟨tables, relations, hsequence, hsequential⟩ := exists_sequence h
  simp only [← mem_sequential, hsequential, List.forall_mem_append, and_assoc]
  refine and_congr ?_ (and_congr ?_ ?_)
  · rw [forall_mem_right_iff schema.declareEnums_forall₂]
    · constructor
      · exact fun hP enum henum fragment hfragment => hP enum henum _ ⟨fragment, hfragment, rfl⟩
      · rintro hP enum henum _ ⟨fragment, hfragment, rfl⟩
        exact hP enum henum fragment hfragment
    · rintro enum _ _ ⟨fragment, hfragment, rfl⟩ ⟨fragment', hfragment', rfl⟩
      rw [Option.some.inj (hfragment.symm.trans hfragment')]
  · refine forall_mem_right_iff hsequence.tables_written fun model one one' hone hone' => ?_
    exact Except.ok.inj (hone.symm.trans hone')
  · refine forall_mem_right_iff hsequence.relations_written fun model one one' hone hone' => ?_
    exact Option.some.inj (Except.ok.inj (hone.symm.trans hone'))

end Schema

end SchemaWriter
