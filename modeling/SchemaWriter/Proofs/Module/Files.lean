import SchemaWriter.Command.Basic
import SchemaWriter.Proofs.Module.Closed
import SchemaWriter.Proofs.Schema.Sequence
import SchemaWriter.Request

namespace SchemaWriter

open Outcome

namespace Schema

structure SeparatesFiles (schema : Schema) : Prop where
  tables : (schema.allModels.map (Naming.tableWords ·.name)).Nodup
  enums : (schema.writtenEnums.map (Naming.folded ·.name.toList)).Nodup
  relations : ∀ model ∈ schema.allModels, ∀ other ∈ schema.related,
    Naming.tableWords model.name ≠ Naming.tableWords other.name ++ ["relations".toList]

theorem separatesFiles_iff {schema : Schema} : schema.SeparatesFiles ↔
    (schema.allModels.map (Naming.tableWords ·.name)).Nodup ∧
    (schema.writtenEnums.map (Naming.folded ·.name.toList)).Nodup ∧
    ∀ model ∈ schema.allModels, ∀ other ∈ schema.related,
      Naming.tableWords model.name ≠ Naming.tableWords other.name ++ ["relations".toList] :=
  ⟨fun h => ⟨h.tables, h.enums, h.relations⟩, fun ⟨tables, enums, relations⟩ =>
    ⟨tables, enums, relations⟩⟩

instance (schema : Schema) : Decidable schema.SeparatesFiles :=
  decidable_of_iff _ separatesFiles_iff.symm

theorem nodup_moduleNames_iff {schema : Schema} :
    schema.moduleNames.Nodup ↔ schema.SeparatesFiles := by
  have henum : ∀ a b, Naming.enumModule a ≠ Naming.tableModule b ∧
      Naming.enumModule a ≠ Naming.relationsModule b := by
    intro a b
    constructor <;>
    · intro heq
      simpa using congrArg Naming.last? heq
  have hrelations : ∀ a b, Naming.relationsModule a = Naming.relationsModule b →
      Naming.tableModule a = Naming.tableModule b := by
    intro a b heq
    rw [Naming.tableModule_eq_tableModule_iff]
    exact Naming.relationsModule_eq_relationsModule_iff.mp heq
  rw [moduleNames, nodup_names_iff henum hrelations, separatesFiles_iff]
  refine and_left_comm.trans (and_congr ?_ (and_congr ?_ ?_))
  · exact nodup_map_congr fun a b => Naming.tableModule_eq_tableModule_iff
  · exact nodup_map_congr fun a b => Naming.enumModule_eq_enumModule_iff
  · simp only [ne_eq, Naming.tableModule_eq_relationsModule_iff]

theorem last?_of_mem_moduleNames {schema : Schema} {name : String}
    (h : name ∈ schema.moduleNames) :
    Naming.last? name = some 's' ∨ Naming.last? name = some 'm' := by
  rcases mem_names.mp h with ⟨enum, -, rfl⟩ | ⟨model, -, rfl⟩ | ⟨model, -, rfl⟩ <;> simp

theorem schemaName_not_mem_moduleNames (schema : Schema) :
    Module.schemaName ∉ schema.moduleNames := by
  intro h
  simpa using last?_of_mem_moduleNames h

end Schema

namespace Declarations

theorem map_name_directory (resolution : Resolution) (d : Declarations) :
    (d.directory resolution).map (·.name) = d.modular.map (·.module) ++ [Module.schemaName] := by
  simp [directory_eq, moduleOf, Module.assemble, Module.schemaRoot]

end Declarations

namespace Schema

variable {schema : Schema} {d : Declarations}

theorem modules_perm_moduleNames (h : schema.declarations = .ok d) :
    (d.modular.map (·.module)).Perm schema.moduleNames := by
  rw [← map_module_sequential h]
  exact (modular_perm_sequential d).map _

theorem schemaName_not_mem_modules (h : schema.declarations = .ok d) :
    Module.schemaName ∉ d.modular.map (·.module) := by
  rw [(modules_perm_moduleNames h).mem_iff]
  exact schemaName_not_mem_moduleNames schema

theorem nodup_directory_iff (h : schema.declarations = .ok d) (resolution : Resolution) :
    ((d.directory resolution).map (·.name)).Nodup ↔ schema.SeparatesFiles := by
  rw [Declarations.map_name_directory, ← nodup_moduleNames_iff,
    ← (modules_perm_moduleNames h).nodup_iff, (List.perm_append_singleton _ _).nodup_iff,
    List.nodup_cons]
  exact and_iff_right (schemaName_not_mem_modules h)

end Schema

namespace Path

theorem join_inj {directory a b : String} : join directory a = join directory b ↔ a = b := by
  unfold join
  split
  · exact String.append_right_inj _
  · exact String.append_right_inj _

end Path

theorem Request.fileName_inj {config : Config} (h : config.outputMode = .directory) {a b : Module} :
    fileName config a = fileName config b ↔ a.name = b.name := by
  simp [fileName, singleFileName?, h, String.append_left_inj]

theorem Command.targetPath_inj {config : Config} (h : config.outputMode = .directory)
    {a b : Module} : targetPath config a = targetPath config b ↔ a.name = b.name := by
  simp [targetPath, h, Path.join_inj, String.append_left_inj]

structure DistinctFiles (config : Config) (modules : List Module) : Prop where
  names : (modules.map (·.name)).Nodup
  responses : (modules.map (Request.fileName config)).Nodup
  targets : (modules.map (Command.targetPath config)).Nodup

theorem distinctFiles_iff {config : Config} (h : config.outputMode = .directory)
    {modules : List Module} : DistinctFiles config modules ↔ (modules.map (·.name)).Nodup := by
  refine ⟨DistinctFiles.names, fun hnames => ⟨hnames, ?_, ?_⟩⟩
  · exact (nodup_map_congr fun a b => Request.fileName_inj h).mpr hnames
  · exact (nodup_map_congr fun a b => Command.targetPath_inj h).mpr hnames

theorem modules_distinctFiles_iff {config : Config} {datamodel : Datamodel}
    {modules : List Module} (hdirectory : config.outputMode = .directory)
    (h : datamodel.modules config = .ok modules) :
    ∃ schema, Schema.ofDatamodel config datamodel = .ok schema ∧
      (DistinctFiles config modules ↔ schema.SeparatesFiles) := by
  obtain ⟨schema, d, hschema, hd, rfl⟩ := Datamodel.modules_eq_ok.mp h
  refine ⟨schema, hschema, ?_⟩
  rw [distinctFiles_iff hdirectory]
  simp only [Declarations.modules, hdirectory]
  exact Schema.nodup_directory_iff hd config.resolution

theorem rolePosts_distinctFiles : (Config.ofDialect .postgres).outputMode = .directory ∧
    ∃ modules, (rolePosts "role").modules (Config.ofDialect .postgres) = .ok modules ∧
      DistinctFiles (Config.ofDialect .postgres) modules := by
  have hdirectory : (Config.ofDialect .postgres).outputMode = .directory := by decide
  have hwritten : ((rolePosts "role").modules (Config.ofDialect .postgres)).isOk = true := by
    decide
  have hseparates : (Schema.ofDatamodel (Config.ofDialect .postgres)
      (rolePosts "role")).toOption.any (fun schema => schema.SeparatesFiles) = true := by
    decide
  obtain ⟨modules, h⟩ := exists_of_isOk hwritten
  obtain ⟨schema, hschema, hiff⟩ := modules_distinctFiles_iff hdirectory h
  obtain ⟨schema', hschema', hseparates⟩ := exists_of_any hseparates
  obtain rfl := Except.ok.inj (hschema.symm.trans hschema')
  exact ⟨hdirectory, modules, h, hiff.mpr (of_decide_eq_true hseparates)⟩

def userUsers : Datamodel where
  models := [
    { name := "User", fields := [{ name := "id", type := "Int", isId := true }] },
    { name := "Users", fields := [{ name := "id", type := "Int", isId := true }] }]
  enums := []

theorem userUsers_not_distinctFiles :
    (userUsers.models.map (·.name) ++ userUsers.enums.map (·.name)).Nodup ∧
      (∀ model ∈ userUsers.models, Naming.isIdentifier model.name = true) ∧
      (Config.ofDialect .postgres).outputMode = .directory ∧
      ∃ modules, userUsers.modules (Config.ofDialect .postgres) = .ok modules ∧
        ¬ (modules.map (·.name)).Nodup := by
  have hnames : (userUsers.modules (Config.ofDialect .postgres)).toOption.any
      (fun modules => modules.map (·.name) = ["users", "users", "schema"]) = true := by
    decide
  obtain ⟨modules, h, hnames⟩ := exists_of_any hnames
  refine ⟨by decide, by decide, by decide, modules, h, ?_⟩
  rw [of_decide_eq_true hnames]
  decide

end SchemaWriter
