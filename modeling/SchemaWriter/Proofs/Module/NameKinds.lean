import SchemaWriter.Proofs.Module.BoundOnce
import SchemaWriter.Proofs.Module.Files

namespace SchemaWriter

open Outcome

namespace Naming

def enumNames (enum : String) : List String :=
  [enumModule enum, enumBinding enum]

def modelNames (model : String) : List String :=
  [tableModule model, tableBinding model, relationsModule model, relationsBinding model]

theorem last?_of_mem_enumNames {enum name : String} (h : name ∈ enumNames enum) :
    last? name = some 'm' := by
  have hname : name = enumModule enum ∨ name = enumBinding enum := by
    simpa [enumNames] using h
  rcases hname with rfl | rfl
  · exact last?_enumModule enum
  · exact last?_enumBinding enum

theorem last?_of_mem_modelNames {model name : String} (h : name ∈ modelNames model) :
    last? name = some 's' ∨ last? name = some 'S' := by
  have hname : name = tableModule model ∨ name = tableBinding model ∨
      name = relationsModule model ∨ name = relationsBinding model := by
    simpa [modelNames] using h
  rcases hname with rfl | rfl | rfl | rfl
  · exact .inl (last?_tableModule model)
  · exact last?_tableBinding model
  · exact .inl (last?_relationsModule model)
  · exact .inl (last?_relationsBinding model)

theorem enumNames_disjoint_modelNames (enum model : String) :
    (enumNames enum).Disjoint (modelNames model) := by
  intro name henum hmodel
  have hlast := last?_of_mem_modelNames hmodel
  rw [last?_of_mem_enumNames henum] at hlast
  exact absurd hlast (by decide)

end Naming

def Declared.names (one : Declared) : List String :=
  one.module :: one.declaration.name?.toList

namespace Declarations

def ofModels (d : Declarations) : List Declared :=
  d.tables ++ d.joins.map (·.table) ++ d.relations ++ d.joins.filterMap (·.relations)

theorem sequential_eq (d : Declarations) : d.sequential = d.enums ++ d.ofModels := by
  simp [sequential, ofModels]

end Declarations

namespace Schema

structure SeparatesKinds (schema : Schema) (d : Declarations) : Prop where
  enums : ∀ one ∈ d.enums, ∃ enum ∈ schema.enums, one.names = Naming.enumNames enum.name
  models : ∀ one ∈ d.ofModels, ∃ model ∈ schema.allModels,
    one.names = [Naming.tableModule model.name, Naming.tableBinding model.name] ∨
    one.names = [Naming.relationsModule model.name, Naming.relationsBinding model.name]
  declared : ∀ enum ∈ d.enums, ∀ one ∈ d.ofModels, enum.names.Disjoint one.names
  named : ∀ enum ∈ schema.enums, ∀ model ∈ schema.allModels,
    (Naming.enumNames enum.name).Disjoint (Naming.modelNames model.name)

variable {schema : Schema} {d : Declarations} {one : Declared}

theorem names_of_mem_enums (h : one ∈ schema.declareEnums) :
    ∃ enum ∈ schema.enums, one.names = Naming.enumNames enum.name := by
  obtain ⟨enum, henum, fragment, hfragment, rfl⟩ := mem_declareEnums.mp h
  have hname := (EnumType.declaration?_eq_some hfragment).1
  exact ⟨enum, henum, by simp [Declared.names, Naming.enumNames, hname]⟩

theorem names_of_mem_ofModels (h : schema.declarations = .ok d) (hone : one ∈ d.ofModels) :
    ∃ model ∈ schema.allModels,
      one.names = [Naming.tableModule model.name, Naming.tableBinding model.name] ∨
      one.names = [Naming.relationsModule model.name, Naming.relationsBinding model.name] := by
  obtain ⟨tables, relations, hsequence, hsequential⟩ := exists_sequence h
  obtain ⟨-, -, -, henums⟩ := declarations_eq_ok.mp h
  rw [d.sequential_eq, henums, List.append_assoc, List.append_cancel_left_eq] at hsequential
  rw [hsequential] at hone
  rcases List.mem_append.mp hone with hone | hone
  · obtain ⟨model, hmodel, htable⟩ := exists_of_mem_right hsequence.tables_written hone
    obtain ⟨hmodule, hname⟩ := table_named htable
    exact ⟨model, hmodel, .inl (by simp [Declared.names, hmodule, hname])⟩
  · obtain ⟨model, hmodel, hrelation⟩ := exists_of_mem_right hsequence.relations_written hone
    obtain ⟨hmodule, hname⟩ := relations_named hrelation
    exact ⟨model, (mem_related.mp hmodel).1, .inr (by simp [Declared.names, hmodule, hname])⟩

theorem subset_modelNames {names : List String} {model : String}
    (h : names = [Naming.tableModule model, Naming.tableBinding model] ∨
      names = [Naming.relationsModule model, Naming.relationsBinding model]) :
    names ⊆ Naming.modelNames model := by
  rcases h with rfl | rfl <;> simp [Naming.modelNames]

theorem separatesKinds (h : schema.declarations = .ok d) : schema.SeparatesKinds d := by
  obtain ⟨-, -, -, henums⟩ := declarations_eq_ok.mp h
  refine ⟨fun one hone => names_of_mem_enums (henums ▸ hone),
    fun one hone => names_of_mem_ofModels h hone, fun one hone other hother => ?_,
    fun enum _ model _ => Naming.enumNames_disjoint_modelNames enum.name model.name⟩
  obtain ⟨enum, -, hnames⟩ := names_of_mem_enums (henums ▸ hone)
  obtain ⟨model, -, hnames'⟩ := names_of_mem_ofModels h hother
  rw [hnames]
  intro name henum hmodel
  exact Naming.enumNames_disjoint_modelNames enum.name model.name henum
    (subset_modelNames hnames' hmodel)

end Schema

def EndsWithOnly {α : Type} (p : α → Prop) (xs : List α) : Prop :=
  ∃ front last, xs = front ++ [last] ∧ p last ∧ ∀ x ∈ front, ¬ p x

theorem Module.endsWithOnly_directory {schema : Schema} {d : Declarations}
    (h : schema.declarations = .ok d) (resolution : Resolution) :
    EndsWithOnly (·.name = Module.schemaName) (d.directory resolution) := by
  refine ⟨_, _, rfl, rfl, fun m hm hname => ?_⟩
  obtain ⟨one, hone, rfl⟩ := List.mem_map.mp hm
  exact Schema.schemaName_not_mem_modules h (List.mem_map.mpr ⟨one, hone, hname⟩)

theorem Module.endsWithOnly_singleFile {schema : Schema} {d : Declarations}
    (h : schema.declarations = .ok d) (resolution : Resolution) (stem : String) :
    EndsWithOnly (·.name? = some Module.schemaName)
      (d.singleFile resolution stem).declarations := by
  refine ⟨_, _, rfl, rfl, fun fragment hfragment hname => ?_⟩
  obtain ⟨one, hone, rfl⟩ := List.mem_map.mp hfragment
  have hmem : some Module.schemaName ∈ schema.bindings.map some := by
    rw [← Schema.map_name?_sequential h]
    exact List.mem_map.mpr ⟨one, hone, hname⟩
  obtain ⟨binding, hbinding, hsame⟩ := List.mem_map.mp hmem
  obtain rfl := Option.some.inj hsame
  exact Schema.schemaName_not_mem_bindings schema hbinding

theorem modules_separatesKinds {config : Config} {datamodel : Datamodel} {modules : List Module}
    (h : datamodel.modules config = .ok modules) :
    ∃ schema d, Schema.ofDatamodel config datamodel = .ok schema ∧
      schema.declarations = .ok d ∧ d.modules config = modules ∧ schema.SeparatesKinds d ∧
      (config.outputMode = .directory → EndsWithOnly (·.name = Module.schemaName) modules) ∧
      ∀ stem, config.outputMode = .singleFile stem → ∃ file, modules = [file] ∧
        EndsWithOnly (·.name? = some Module.schemaName) file.declarations := by
  obtain ⟨schema, d, hschema, hd, rfl⟩ := Datamodel.modules_eq_ok.mp h
  refine ⟨schema, d, hschema, hd, rfl, Schema.separatesKinds hd, fun hmode => ?_,
    fun stem hmode => ?_⟩
  · rw [Declarations.modules, hmode]
    exact Module.endsWithOnly_directory hd config.resolution
  · rw [Declarations.modules, hmode]
    exact ⟨_, rfl, Module.endsWithOnly_singleFile hd config.resolution stem⟩

def oddNames : Datamodel where
  models := [
    { name := "schema", fields := [
      { name := "id", type := "Int", isId := true },
      { name := "role", kind := .enum, type := "Schema" },
      { name := "parts", kind := .object, type := "ΣΑΣ", isList := true }] },
    { name := "ΣΑΣ", fields := [
      { name := "id", type := "Int", isId := true },
      { name := "wholes", kind := .object, type := "schema", isList := true }] },
    { name := "S", fields := [{ name := "id", type := "Int", isId := true }] }]
  enums := [{ name := "Schema", values := [{ name := "A" }] }, { name := "$" }]

def oddFile : Config :=
  { Config.ofDialect .mysql with output := "schema.ts" }

theorem oddNames_separatesKinds :
    (∃ modules schema d, oddNames.modules (Config.ofDialect .postgres) = .ok modules ∧
      modules.map (·.name) = ["schemas", "σαςs", "s", "schema-enum", "-enum",
        "schemas-relations", "σαςs-relations", "s", "s-relations", "schema"] ∧
      Schema.ofDatamodel (Config.ofDialect .postgres) oddNames = .ok schema ∧
      schema.declarations = .ok d ∧ d.modules (Config.ofDialect .postgres) = modules ∧
      schema.SeparatesKinds d ∧ EndsWithOnly (·.name = Module.schemaName) modules) ∧
    ∃ file schema d, oddNames.modules oddFile = .ok [file] ∧
      Schema.ofDatamodel oddFile oddNames = .ok schema ∧ schema.declarations = .ok d ∧
      d.modules oddFile = [file] ∧ schema.SeparatesKinds d ∧
      EndsWithOnly (·.name? = some Module.schemaName) file.declarations := by
  have hnames : (oddNames.modules (Config.ofDialect .postgres)).toOption.any
      (fun modules => modules.map (·.name) = ["schemas", "σαςs", "s", "schema-enum", "-enum",
        "schemas-relations", "σαςs-relations", "s", "s-relations", "schema"]) = true := by
    decide +kernel
  have hfile : (oddNames.modules oddFile).isOk = true := by decide
  constructor
  · obtain ⟨modules, h, hnames⟩ := exists_of_any hnames
    obtain ⟨schema, d, hschema, hd, hmodules, hkinds, hdirectory, -⟩ := modules_separatesKinds h
    exact ⟨modules, schema, d, h, of_decide_eq_true hnames, hschema, hd, hmodules, hkinds,
      hdirectory (by decide)⟩
  · obtain ⟨modules, h⟩ := exists_of_isOk hfile
    obtain ⟨schema, d, hschema, hd, hmodules, hkinds, -, hsingle⟩ := modules_separatesKinds h
    obtain ⟨file, rfl, honly⟩ := hsingle "schema" (by decide)
    exact ⟨file, schema, d, h, hschema, hd, hmodules, hkinds, honly⟩

end SchemaWriter
