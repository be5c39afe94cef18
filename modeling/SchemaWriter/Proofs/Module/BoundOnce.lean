import SchemaWriter.Proofs.Module.Files
import SchemaWriter.Proofs.Naming.Alias
import SchemaWriter.Proofs.Requirement.Distinct
import SchemaWriter.Proofs.Schema.Required

namespace SchemaWriter

open Outcome
open Requirement (Requires Binds Agree)

namespace Module

def BindsOnce (m : Module) : Prop :=
  (m.imports.flatMap Requirement.bindings ++ m.bindings).Nodup

theorem bindsOnce_iff {m : Module} {required : List Requirement}
    (h : m.imports = Requirement.merge required) :
    m.BindsOnce ↔ Agree required ∧ m.bindings.Nodup ∧
      ∀ place, ∀ name ∈ m.bindings, ¬ Binds required place name := by
  rw [BindsOnce, h, List.nodup_append, Requirement.nodup_bindings_merge_iff]
  refine and_congr_right fun _ => and_congr_right fun _ => ?_
  simp only [Requirement.mem_bindings_merge]
  constructor
  · intro hdistinct place name hname hbinds
    exact hdistinct name ⟨place, hbinds⟩ name hname rfl
  · rintro hfree name ⟨place, hbinds⟩ _ hname rfl
    exact hfree place name hname hbinds

theorem bindsOnce_iff_of_named {m : Module} {required : List Requirement}
    (h : m.imports = Requirement.merge required) (hnamed : ∀ r ∈ required, r.isNamed = true) :
    m.BindsOnce ↔ (∀ name source source', Requires required source name →
        Requires required source' name → source = source') ∧ m.bindings.Nodup ∧
      ∀ source, ∀ name ∈ m.bindings, ¬ Requires required source name := by
  rw [bindsOnce_iff h, Requirement.agree_iff_of_named hnamed]
  refine and_congr_right fun _ => and_congr_right fun _ => ?_
  simp only [Requirement.binds_iff_of_named hnamed]
  constructor
  · intro hfree source name hname hrequires
    exact hfree ⟨.named [], source⟩ name hname ⟨source, rfl, hrequires⟩
  · rintro hfree place name hname ⟨source, -, hrequires⟩
    exact hfree source name hname hrequires

theorem bindsOnce_schemaRoot_iff {resolution : Resolution} {modules : List Module}
    (h : ∀ m ∈ modules, Naming.last? m.name = some 's' ∨ Naming.last? m.name = some 'm') :
    (schemaRoot resolution modules).BindsOnce ↔
      ∀ a ∈ modules.map (·.name), ∀ b ∈ modules.map (·.name),
        Naming.moduleAlias a = Naming.moduleAlias b → a = b := by
  have hbinds : ∀ place name, Binds (modules.map fun m => .wildcard
      (Naming.moduleAlias m.name) m.name) place name ↔ ∃ m ∈ modules,
        .wildcard (Naming.moduleAlias m.name) m.name = place ∧ Naming.moduleAlias m.name = name := by
    intro place name
    simp [Binds, Requirement.wildcard, Requirement.key, Requirement.bindings, Clause.bindings,
      eq_comm]
  have hschema : (schemaRoot resolution modules).bindings = [schemaName] := rfl
  rw [bindsOnce_iff rfl, hschema]
  simp only [Agree, hbinds, List.forall_mem_map, List.mem_singleton, forall_eq]
  constructor
  · rintro ⟨hagree, -⟩ a ha b hb halias
    have hplace := hagree _ _ _ ⟨a, ha, rfl, rfl⟩ ⟨b, hb, rfl, halias.symm⟩
    simpa [Requirement.wildcard] using congrArg Requirement.source hplace
  · intro haliases
    refine ⟨?_, List.nodup_singleton _, ?_⟩
    · rintro _ _ _ ⟨a, ha, rfl, rfl⟩ ⟨b, hb, rfl, halias⟩
      rw [halias, haliases a ha b hb halias.symm]
    · rintro place ⟨m, hm, -, halias⟩
      exact Naming.moduleAlias_ne_schemaName (h m hm) halias

end Module

namespace Declarations

theorem bindings_moduleOf {resolution : Resolution} {one : Declared} {binding : String}
    (h : one.declaration.name? = some binding) :
    (moduleOf resolution one).bindings = [binding] := by
  simp [moduleOf, Module.bindings, Module.assemble, h]

theorem bindsOnce_moduleOf_iff {resolution : Resolution} {one : Declared} {binding : String}
    (hname : one.declaration.name? = some binding)
    (hnamed : ∀ r ∈ one.declaration.imports, r.isNamed = true) :
    (moduleOf resolution one).BindsOnce ↔
      (∀ name source source', source ≠ .sibling one.module →
        Requires one.declaration.imports source name → source' ≠ .sibling one.module →
        Requires one.declaration.imports source' name → source = source') ∧
      ∀ source, source ≠ .sibling one.module →
        ¬ Requires one.declaration.imports source binding := by
  have hrequired : Module.requirements [one.declaration] = one.declaration.imports := by
    simp [Module.requirements]
  have hrequires : ∀ source name, Requires ((Module.requirements [one.declaration]).filter
      (·.source ≠ .sibling one.module)) source name ↔
        source ≠ .sibling one.module ∧ Requires one.declaration.imports source name := by
    intro source name
    simp only [hrequired, Requires, List.mem_filter, decide_eq_true_eq]
    constructor
    · rintro ⟨r, ⟨hr, hother⟩, rfl, hmem⟩
      exact ⟨hother, r, hr, rfl, hmem⟩
    · rintro ⟨hother, r, hr, rfl, hmem⟩
      exact ⟨r, ⟨hr, hother⟩, rfl, hmem⟩
  rw [Module.bindsOnce_iff_of_named rfl fun r hr => hnamed r (hrequired ▸ (List.mem_filter.mp hr).1),
    bindings_moduleOf hname]
  simp only [hrequires, List.mem_singleton, forall_eq, and_imp, not_and, List.nodup_singleton,
    true_and]

theorem requires_singleton {source source' : Specifier} {name name' : String} :
    Requires [⟨.named [name], source⟩] source' name' ↔ source = source' ∧ name' = name := by
  simp [Requires, Requirement.names]

end Declarations

namespace Model

def AgreesOnEnums (model : Model) : Prop :=
  ∀ field ∈ model.fields, field.kind = .enum → ∀ other ∈ model.fields, other.kind = .enum →
    Naming.enumBinding field.type = Naming.enumBinding other.type →
    Naming.enumModule field.type = Naming.enumModule other.type

instance (model : Model) : Decidable model.AgreesOnEnums :=
  inferInstanceAs (Decidable (∀ field ∈ model.fields, field.kind = .enum →
    ∀ other ∈ model.fields, other.kind = .enum →
      Naming.enumBinding field.type = Naming.enumBinding other.type →
      Naming.enumModule field.type = Naming.enumModule other.type))

end Model

namespace Schema

theorem requires_table {schema : Schema} {model : Model} {one : Declared}
    (hbare : ∀ field ∈ model.fields, field.Bare) (h : schema.declareTable model = .ok one)
    {source : Specifier} {name : String} (hrequires : Requires one.declaration.imports source name) :
    (Naming.isLibraryName name = true ∧ source = .package schema.config.dialect.coreModule) ∨
      ∃ field ∈ model.fields, field.kind = .enum ∧ name = Naming.enumBinding field.type ∧
        source = .sibling (Naming.enumModule field.type) := by
  obtain ⟨table, htable, rfl⟩ := declareTable_eq_ok.mp h
  obtain ⟨r, hr, rfl, hname⟩ := hrequires
  rcases (Model.mem_imports_declaration (Model.bare_columns hbare) htable).mp hr with
    ⟨library, hlibrary, rfl⟩ | ⟨field, hfield, hkind, rfl⟩
  · obtain rfl := List.mem_singleton.mp hname
    exact .inl ⟨hlibrary.isLibraryName, rfl⟩
  · obtain rfl := List.mem_singleton.mp hname
    exact .inr ⟨field, (List.mem_filter.mp hfield).1, hkind, rfl, rfl⟩

theorem bindsOnce_table_iff {schema : Schema} {model : Model} {one : Declared}
    (hbare : ∀ field ∈ model.fields, field.Bare) (h : schema.declareTable model = .ok one)
    (resolution : Resolution) :
    (Declarations.moduleOf resolution one).BindsOnce ↔ model.AgreesOnEnums := by
  obtain ⟨hmodule, hbinding⟩ := table_named h
  have hnamed : ∀ r ∈ one.declaration.imports, r.isNamed = true := by
    obtain ⟨table, htable, rfl⟩ := declareTable_eq_ok.mp h
    exact Model.isNamed_of_mem_declaration htable
  have hother : ∀ enum, Specifier.sibling (Naming.enumModule enum) ≠ .sibling one.module := by
    intro enum heq
    rw [hmodule] at heq
    simpa using congrArg Naming.last? (Specifier.sibling.inj heq)
  have henum : ∀ field ∈ model.fields, field.kind = .enum → Requires one.declaration.imports
      (.sibling (Naming.enumModule field.type)) (Naming.enumBinding field.type) := by
    obtain ⟨table, htable, rfl⟩ := declareTable_eq_ok.mp h
    intro field hfield hkind
    exact ⟨_, Model.enum_mem_imports htable hfield hkind, rfl, List.mem_singleton_self _⟩
  rw [Declarations.bindsOnce_moduleOf_iff hbinding hnamed]
  constructor
  · rintro ⟨hagree, -⟩ field hfield hkind other hother' hkind' hsame
    refine Specifier.sibling.inj (hagree _ _ _ (hother _) (henum field hfield hkind) (hother _) ?_)
    rw [hsame]
    exact henum other hother' hkind'
  · intro hagree
    refine ⟨fun name source source' _ hrequires _ hrequires' => ?_, fun source _ hrequires => ?_⟩
    · rcases requires_table hbare h hrequires with
        ⟨hlibrary, rfl⟩ | ⟨field, hfield, hkind, rfl, rfl⟩ <;>
      rcases requires_table hbare h hrequires' with
        ⟨hlibrary', rfl⟩ | ⟨other, hother, hkind', hsame, rfl⟩
      · rfl
      · simp [hsame] at hlibrary
      · simp at hlibrary'
      · rw [hagree field hfield hkind other hother hkind' hsame]
    · rcases requires_table hbare h hrequires with ⟨hlibrary, -⟩ | ⟨field, -, -, hsame, -⟩
      · simp [Naming.isLibraryName_tableBinding] at hlibrary
      · exact Naming.enumBinding_ne_tableBinding _ _ hsame.symm

theorem bindsOnce_enum_iff {schema : Schema} {enum : EnumType} {fragment : Fragment}
    (h : enum.declaration? schema.config.dialect = some fragment) (resolution : Resolution) :
    (Declarations.moduleOf resolution ⟨Naming.enumModule enum.name, fragment⟩).BindsOnce ↔
      schema.config.dialect.enumFunction? ≠ some (Naming.enumBinding enum.name) := by
  obtain ⟨function, hfunction, himports⟩ := EnumType.imports_declaration? h
  have hnamed : ∀ r ∈ fragment.imports, r.isNamed = true := by
    simp [himports, Dialect.coreImport, Requirement.named, Requirement.isNamed]
  have hbinding := (EnumType.declaration?_eq_some h).1
  rw [Declarations.bindsOnce_moduleOf_iff hbinding hnamed]
  simp only [himports, Dialect.coreImport, Requirement.named, Declarations.requires_singleton,
    hfunction, ne_eq, Option.some.injEq]
  constructor
  · rintro ⟨-, hfree⟩ hsame
    exact hfree _ (by simp) ⟨rfl, hsame.symm⟩
  · intro hfree
    refine ⟨?_, ?_⟩
    · rintro name source source' - ⟨rfl, -⟩ - ⟨rfl, -⟩
      rfl
    · rintro source - ⟨-, hsame⟩
      exact hfree hsame.symm

theorem requires_relations {schema : Schema} {model : Model} {one : Declared}
    (h : schema.declareRelations? model = .ok (some one)) {source : Specifier} {name : String} :
    Requires one.declaration.imports source name ↔
      (name = "relations" ∧ source = .package "drizzle-orm") ∨
      ∃ other ∈ schema.mentioned model, name = Naming.tableBinding other.name ∧
        source = .sibling (Naming.tableModule other.name) := by
  simp only [Requires, mem_imports_relations h]
  constructor
  · rintro ⟨r, rfl | ⟨other, hother, rfl⟩, rfl, hname⟩
    · exact .inl ⟨List.mem_singleton.mp hname, rfl⟩
    · exact .inr ⟨other, hother, List.mem_singleton.mp hname, rfl⟩
  · rintro (⟨rfl, rfl⟩ | ⟨other, hother, rfl, rfl⟩)
    · exact ⟨_, .inl rfl, rfl, List.mem_singleton_self _⟩
    · exact ⟨_, .inr ⟨other, hother, rfl⟩, rfl, List.mem_singleton_self _⟩

theorem bindsOnce_relations_iff {schema : Schema} {model : Model} {one : Declared}
    (h : schema.declareRelations? model = .ok (some one)) (resolution : Resolution) :
    (Declarations.moduleOf resolution one).BindsOnce ↔
      ∀ other ∈ schema.mentioned model, Naming.tableBinding other.name ≠ "relations" := by
  obtain ⟨hmodule, hbinding⟩ := relations_named h
  have hnamed : ∀ r ∈ one.declaration.imports, r.isNamed = true := by
    intro r hr
    rcases (mem_imports_relations h).mp hr with rfl | ⟨_, -, rfl⟩ <;> rfl
  rw [Declarations.bindsOnce_moduleOf_iff hbinding hnamed, hmodule]
  simp only [requires_relations h]
  constructor
  · rintro ⟨hagree, -⟩ other hother hsame
    have hsources := hagree "relations" (.package "drizzle-orm")
      (.sibling (Naming.tableModule other.name)) (by simp) (.inl ⟨rfl, rfl⟩)
      (by simpa using Naming.tableModule_ne_of_relations hsame model.name)
      (.inr ⟨other, hother, hsame.symm, rfl⟩)
    cases hsources
  · intro hfree
    refine ⟨?_, ?_⟩
    · rintro name source source' - hrequires - hrequires'
      rcases hrequires with ⟨rfl, rfl⟩ | ⟨other, hother, rfl, rfl⟩ <;>
      rcases hrequires' with ⟨hname, rfl⟩ | ⟨other', hother', hname, rfl⟩
      · rfl
      · exact absurd hname.symm (hfree other' hother')
      · exact absurd hname (hfree other hother)
      · rw [Naming.tableModule, Naming.tableModule, hname]
    · rintro source hsource (⟨hname, -⟩ | ⟨other, -, hname, rfl⟩)
      · exact Naming.relationsBinding_ne_relations _ hname
      · rw [Naming.tableModule_eq_of_tableBinding hname.symm] at hsource
        exact hsource rfl

structure SeparatesImports (schema : Schema) : Prop where
  enum_columns : ∀ model ∈ schema.allModels, model.AgreesOnEnums
  enum_functions : ∀ enum ∈ schema.writtenEnums,
    schema.config.dialect.enumFunction? ≠ some (Naming.enumBinding enum.name)
  relations : ∀ model ∈ schema.related, ∀ other ∈ schema.mentioned model,
    Naming.tableBinding other.name ≠ "relations"

structure SeparatesInDirectory (schema : Schema) : Prop extends SeparatesImports schema where
  aliases : ∀ a ∈ schema.moduleNames, ∀ b ∈ schema.moduleNames,
    Naming.moduleAlias a = Naming.moduleAlias b → a = b

theorem separatesInDirectory_iff {schema : Schema} : schema.SeparatesInDirectory ↔
    (∀ model ∈ schema.allModels, model.AgreesOnEnums) ∧
    (∀ enum ∈ schema.writtenEnums,
      schema.config.dialect.enumFunction? ≠ some (Naming.enumBinding enum.name)) ∧
    (∀ model ∈ schema.related, ∀ other ∈ schema.mentioned model,
      Naming.tableBinding other.name ≠ "relations") ∧
    ∀ a ∈ schema.moduleNames, ∀ b ∈ schema.moduleNames,
      Naming.moduleAlias a = Naming.moduleAlias b → a = b :=
  ⟨fun h => ⟨h.enum_columns, h.enum_functions, h.relations, h.aliases⟩,
    fun ⟨enum_columns, enum_functions, relations, aliases⟩ =>
      ⟨⟨enum_columns, enum_functions, relations⟩, aliases⟩⟩

instance (schema : Schema) : Decidable schema.SeparatesInDirectory :=
  decidable_of_iff _ separatesInDirectory_iff.symm

structure SeparatesInFile (schema : Schema) : Prop where
  enums : (schema.writtenEnums.map (Naming.enumBinding ·.name)).Nodup
  tables : (schema.allModels.map (Naming.tableBinding ·.name)).Nodup
  enum_functions : ∀ enum ∈ schema.writtenEnums,
    schema.config.dialect.enumFunction? ≠ some (Naming.enumBinding enum.name)
  relations : ∀ model ∈ schema.allModels, ∀ other ∈ schema.related,
    Naming.tableBinding model.name ≠ "relations" ∧
      Naming.tableBinding model.name ≠ Naming.relationsBinding other.name

def SeparatesBindings (schema : Schema) : OutputMode → Prop
  | .directory => schema.SeparatesInDirectory
  | .singleFile _ => schema.SeparatesInFile

def Bare (schema : Schema) : Prop :=
  ∀ model ∈ schema.allModels, ∀ field ∈ model.fields, field.Bare

theorem mem_moduleNames_iff {schema : Schema} {d : Declarations} (h : schema.declarations = .ok d)
    {name : String} : name ∈ d.modular.map (·.module) ↔ name ∈ schema.moduleNames := by
  rw [← map_module_sequential h]
  exact ((modular_perm_sequential d).map _).mem_iff

theorem bindsOnce_directory_iff {schema : Schema} {d : Declarations} (hbare : schema.Bare)
    (h : schema.declarations = .ok d) (resolution : Resolution) :
    (∀ m ∈ d.directory resolution, m.BindsOnce) ↔ schema.SeparatesInDirectory := by
  have hends : ∀ m ∈ d.modular.map (Declarations.moduleOf resolution),
      Naming.last? m.name = some 's' ∨ Naming.last? m.name = some 'm' := by
    intro m hm
    obtain ⟨one, hone, rfl⟩ := List.mem_map.mp hm
    exact last?_of_mem_moduleNames ((mem_moduleNames_iff h).mp (List.mem_map_of_mem hone))
  have hnames : (d.modular.map (Declarations.moduleOf resolution)).map (·.name) =
      d.modular.map (·.module) := by
    simp [Declarations.moduleOf, Module.assemble]
  rw [Declarations.directory_eq, List.forall_mem_append, List.forall_mem_singleton,
    Module.bindsOnce_schemaRoot_iff hends, hnames, List.forall_mem_map, forall_modular_iff h]
  simp only [mem_moduleNames_iff h]
  constructor
  · rintro ⟨⟨henums, htables, hrelations⟩, haliases⟩
    refine ⟨⟨fun model hmodel => ?_, fun enum henum => ?_, fun model hmodel => ?_⟩, haliases⟩
    · obtain ⟨one, -, hone⟩ := exists_table h hmodel
      exact (bindsOnce_table_iff (hbare model hmodel) hone resolution).mp
        (htables model hmodel one hone)
    · obtain ⟨fragment, hfragment⟩ := enum.declaration?_isSome (mem_writtenEnums.mp henum).1
      exact (bindsOnce_enum_iff hfragment resolution).mp (henums enum henum fragment hfragment)
    · obtain ⟨hmem, hquery, hfields⟩ := mem_related.mp hmodel
      obtain ⟨one, -, hone⟩ := exists_relations h hquery hmem hfields
      exact (bindsOnce_relations_iff hone resolution).mp (hrelations model hmodel one hone)
  · intro hseparates
    refine ⟨⟨fun enum henum fragment hfragment => ?_, fun model hmodel one hone => ?_,
      fun model hmodel one hone => ?_⟩, hseparates.aliases⟩
    · exact (bindsOnce_enum_iff hfragment resolution).mpr (hseparates.enum_functions enum henum)
    · exact (bindsOnce_table_iff (hbare model hmodel) hone resolution).mpr
        (hseparates.enum_columns model hmodel)
    · exact (bindsOnce_relations_iff hone resolution).mpr (hseparates.relations model hmodel)

structure NamedInAscii (schema : Schema) : Prop where
  models : ∀ model ∈ schema.allModels, Naming.Ascii model.name.toList
  enums : ∀ enum ∈ schema.writtenEnums, Naming.Ascii enum.name.toList

theorem NamedInAscii.spelled_or_enum {schema : Schema} (h : schema.NamedInAscii) {name : String}
    (hname : name ∈ schema.moduleNames) :
    (Naming.Spelled name ∧ Naming.last? name = some 's') ∨
      ∃ enum ∈ schema.writtenEnums, Naming.enumModule enum.name = name := by
  rcases mem_names.mp hname with henum | ⟨model, hmodel, rfl⟩ | ⟨model, hmodel, rfl⟩
  · exact .inr henum
  · exact .inl ⟨Naming.spelled_tableModule (h.models model hmodel), by simp⟩
  · have hmodel := (related_sublist schema).subset hmodel
    exact .inl ⟨Naming.spelled_relationsModule (h.models model hmodel), by simp⟩

theorem NamedInAscii.moduleAlias_inj {schema : Schema} (h : schema.NamedInAscii)
    (henums : (schema.writtenEnums.map (Naming.enumBinding ·.name)).Nodup) {a b : String}
    (ha : a ∈ schema.moduleNames) (hb : b ∈ schema.moduleNames)
    (halias : Naming.moduleAlias a = Naming.moduleAlias b) : a = b := by
  rcases h.spelled_or_enum ha with ⟨hspelled, hlast⟩ | ⟨enum, henum, rfl⟩ <;>
  rcases h.spelled_or_enum hb with ⟨hspelled', hlast'⟩ | ⟨enum', henum', rfl⟩
  · exact hspelled.moduleAlias_inj hspelled' halias
  · exact absurd halias.symm (Naming.moduleAlias_ne_moduleAlias (by simp) hlast)
  · exact absurd halias (Naming.moduleAlias_ne_moduleAlias (by simp) hlast')
  · have hbinding := Naming.enumBinding_eq_of_moduleAlias (h.enums enum henum)
      (h.enums enum' henum') halias
    rw [List.inj_on_of_nodup_map henums henum henum' hbinding]

theorem separatesInDirectory_iff_of_ascii {schema : Schema} (h : schema.NamedInAscii)
    (henums : (schema.writtenEnums.map (Naming.enumBinding ·.name)).Nodup) :
    schema.SeparatesInDirectory ↔ schema.SeparatesImports :=
  ⟨fun hseparates => hseparates.toSeparatesImports,
    fun himports => ⟨himports, fun _ ha _ hb => h.moduleAlias_inj henums ha hb⟩⟩

end Schema

namespace Declarations

def fileRequirements (d : Declarations) : List Requirement :=
  (Module.requirements (d.sequential.map (·.declaration))).filter (!·.source.isSibling)

theorem mem_fileRequirements {d : Declarations} {r : Requirement} :
    r ∈ d.fileRequirements ↔ r.source.isSibling = false ∧
      ∃ one ∈ d.modular, r ∈ one.declaration.imports := by
  simp [fileRequirements, Module.requirements, ← Schema.mem_sequential, and_comm]

end Declarations

namespace Schema

theorem bindings_singleFile {schema : Schema} {d : Declarations} (h : schema.declarations = .ok d)
    (resolution : Resolution) (stem : String) :
    (d.singleFile resolution stem).bindings = schema.bindings ++ [Module.schemaName] := by
  have hnames : (d.sequential.map (·.declaration)).filterMap Fragment.name? = schema.bindings := by
    have hsome := congrArg (List.filterMap id) (map_name?_sequential h)
    simpa [List.filterMap_map, Function.comp_def] using hsome
  rw [Declarations.singleFile, Module.assembleSingle, Module.bindings, List.filterMap_append, hnames]
  rfl

theorem isNamed_of_mem_imports {schema : Schema} {d : Declarations}
    (h : schema.declarations = .ok d) :
    ∀ one ∈ d.modular, ∀ r ∈ one.declaration.imports, r.isNamed = true := by
  rw [forall_modular_iff h]
  refine ⟨fun enum _ fragment hfragment r hr => ?_, fun model _ one hone r hr => ?_,
    fun model _ one hone r hr => ?_⟩
  · obtain ⟨name, -, himports⟩ := EnumType.imports_declaration? hfragment
    rw [himports, List.mem_singleton] at hr
    rw [hr]
    rfl
  · obtain ⟨table, htable, rfl⟩ := declareTable_eq_ok.mp hone
    exact Model.isNamed_of_mem_declaration htable r hr
  · rcases (mem_imports_relations hone).mp hr with rfl | ⟨_, -, rfl⟩ <;> rfl

theorem requires_file {schema : Schema} {d : Declarations} (hbare : schema.Bare)
    (h : schema.declarations = .ok d) {source : Specifier} {name : String}
    (hrequires : Requires d.fileRequirements source name) :
    (source = .package schema.config.dialect.coreModule ∧ (Naming.isLibraryName name = true ∨
      schema.writtenEnums ≠ [] ∧ schema.config.dialect.enumFunction? = some name)) ∨
    source = .package "drizzle-orm" ∧ name = "relations" ∧ schema.related ≠ [] := by
  obtain ⟨r, hr, rfl, hname⟩ := hrequires
  obtain ⟨hforeign, one, hone, hr⟩ := Declarations.mem_fileRequirements.mp hr
  revert one
  refine (forall_modular_iff h).mpr ⟨fun enum henum fragment hfragment hr => ?_,
    fun model hmodel one hone hr => ?_, fun model hmodel one hone hr => ?_⟩
  · obtain ⟨function, hfunction, himports⟩ := EnumType.imports_declaration? hfragment
    rw [himports, List.mem_singleton] at hr
    subst hr
    obtain rfl := List.mem_singleton.mp hname
    exact .inl ⟨rfl, .inr ⟨List.ne_nil_of_mem henum, hfunction⟩⟩
  · rcases requires_table (hbare model hmodel) hone ⟨r, hr, rfl, hname⟩ with
      ⟨hlibrary, hsource⟩ | ⟨field, -, -, -, hsource⟩
    · exact .inl ⟨hsource, .inl hlibrary⟩
    · rw [hsource] at hforeign
      cases hforeign
  · rcases (requires_relations hone).mp ⟨r, hr, rfl, hname⟩ with
      ⟨rfl, hsource⟩ | ⟨other, -, -, hsource⟩
    · exact .inr ⟨hsource, rfl, List.ne_nil_of_mem hmodel⟩
    · rw [hsource] at hforeign
      cases hforeign

theorem requires_enumFunction {schema : Schema} {d : Declarations}
    (h : schema.declarations = .ok d) {enum : EnumType} (henum : enum ∈ schema.writtenEnums)
    {function : String} (hfunction : schema.config.dialect.enumFunction? = some function) :
    Requires d.fileRequirements (.package schema.config.dialect.coreModule) function := by
  obtain ⟨hdialect, hmem⟩ := mem_writtenEnums.mp henum
  obtain ⟨-, -, -, henums⟩ := declarations_eq_ok.mp h
  obtain ⟨fragment, hfragment⟩ := enum.declaration?_isSome hdialect
  obtain ⟨name, hname, himports⟩ := EnumType.imports_declaration? hfragment
  obtain rfl := Option.some.inj (hfunction.symm.trans hname)
  have hone : ⟨Naming.enumModule enum.name, fragment⟩ ∈ d.modular :=
    mem_modular.mpr (.inr (.inl (henums ▸ mem_declareEnums.mpr ⟨enum, hmem, _, hfragment, rfl⟩)))
  refine ⟨schema.config.dialect.coreImport function, Declarations.mem_fileRequirements.mpr
    ⟨rfl, _, hone, ?_⟩, rfl, List.mem_singleton_self _⟩
  simp [himports]

theorem requires_relationsFunction {schema : Schema} {d : Declarations}
    (h : schema.declarations = .ok d) {model : Model} (hmodel : model ∈ schema.related) :
    Requires d.fileRequirements (.package "drizzle-orm") "relations" := by
  obtain ⟨hmem, hquery, hfields⟩ := mem_related.mp hmodel
  obtain ⟨one, hone, hdeclare⟩ := exists_relations h hquery hmem hfields
  refine ⟨_, Declarations.mem_fileRequirements.mpr ⟨?_, one, hone,
    (mem_imports_relations hdeclare).mpr (.inl rfl)⟩, rfl, List.mem_singleton_self _⟩
  rfl

theorem nodup_bindings_iff {schema : Schema} : schema.bindings.Nodup ↔
    (schema.writtenEnums.map (Naming.enumBinding ·.name)).Nodup ∧
    (schema.allModels.map (Naming.tableBinding ·.name)).Nodup ∧
    ∀ model ∈ schema.allModels, ∀ other ∈ schema.related,
      Naming.tableBinding model.name ≠ Naming.relationsBinding other.name := by
  refine nodup_names_iff (fun a b => ⟨?_, ?_⟩) fun a b => Naming.relationsBinding_inj.mp
  · exact Naming.enumBinding_ne_tableBinding a b
  · exact Naming.enumBinding_ne_relationsBinding a b

theorem last?_of_mem_bindings {schema : Schema} {name : String} (h : name ∈ schema.bindings) :
    Naming.last? name ∈ [some 's', some 'S', some 'm'] := by
  rcases mem_names.mp h with ⟨enum, -, rfl⟩ | ⟨model, -, rfl⟩ | ⟨model, -, rfl⟩
  · simp
  · rcases Naming.last?_tableBinding model.name with hlast | hlast <;> simp [hlast]
  · simp

theorem schemaName_not_mem_bindings (schema : Schema) : Module.schemaName ∉ schema.bindings := by
  intro h
  simpa using last?_of_mem_bindings h

theorem SeparatesInFile.not_requires {schema : Schema} {d : Declarations} (hbare : schema.Bare)
    (h : schema.declarations = .ok d) (hseparates : schema.SeparatesInFile) {name : String}
    (hname : name ∈ schema.bindings ++ [Module.schemaName]) (source : Specifier) :
    ¬ Requires d.fileRequirements source name := by
  have hown : Naming.isLibraryName name = false := by
    rcases List.mem_append.mp hname with hname | hname
    · simp [Naming.isLibraryName, last?_of_mem_bindings hname]
    · simp [List.mem_singleton.mp hname]
  intro hrequires
  rcases requires_file hbare h hrequires with
    ⟨-, hlibrary | ⟨-, hfunction⟩⟩ | ⟨-, rfl, hrelated⟩
  · rw [hown] at hlibrary
    cases hlibrary
  · have hlast := Dialect.last?_enumFunction hfunction
    rcases List.mem_append.mp hname with hname | hname
    · rcases mem_names.mp hname with ⟨enum, henum, rfl⟩ | ⟨model, -, rfl⟩ | ⟨model, -, rfl⟩
      · exact hseparates.enum_functions enum henum hfunction
      · rcases Naming.last?_tableBinding model.name with htable | htable <;> simp [htable] at hlast
      · simp at hlast
    · simp [List.mem_singleton.mp hname] at hlast
  · obtain ⟨other, hother⟩ := List.exists_mem_of_ne_nil _ hrelated
    rcases List.mem_append.mp hname with hname | hname
    · rcases mem_names.mp hname with ⟨enum, -, heq⟩ | ⟨model, hmodel, heq⟩ | ⟨model, -, heq⟩
      · have hlast := congrArg Naming.last? heq
        rw [Naming.last?_enumBinding] at hlast
        exact absurd hlast (by decide)
      · exact (hseparates.relations model hmodel other hother).1 heq
      · exact Naming.relationsBinding_ne_relations _ heq
    · exact absurd (List.mem_singleton.mp hname) (by decide)

theorem bindsOnce_singleFile_iff {schema : Schema} {d : Declarations} (hbare : schema.Bare)
    (h : schema.declarations = .ok d) (resolution : Resolution) (stem : String) :
    (d.singleFile resolution stem).BindsOnce ↔ schema.SeparatesInFile := by
  have hnamed : ∀ r ∈ d.fileRequirements, r.isNamed = true := by
    intro r hr
    obtain ⟨-, one, hone, hr⟩ := Declarations.mem_fileRequirements.mp hr
    exact isNamed_of_mem_imports h one hone r hr
  have hagree : ∀ name source source', Requires d.fileRequirements source name →
      Requires d.fileRequirements source' name → source = source' := by
    have hcore : ∀ name, name = "relations" → ¬ (Naming.isLibraryName name = true ∨
        schema.writtenEnums ≠ [] ∧ schema.config.dialect.enumFunction? = some name) := by
      rintro name rfl (hlibrary | ⟨-, hfunction⟩)
      · exact absurd hlibrary (by decide)
      · exact absurd (Dialect.last?_enumFunction hfunction) (by decide)
    intro name source source' hrequires hrequires'
    rcases requires_file hbare h hrequires with ⟨rfl, hname⟩ | ⟨rfl, hname, -⟩ <;>
    rcases requires_file hbare h hrequires' with ⟨rfl, hname'⟩ | ⟨rfl, hname', -⟩
    · rfl
    · exact absurd hname (hcore name hname')
    · exact absurd hname' (hcore name hname)
    · rfl
  rw [Module.bindsOnce_iff_of_named rfl hnamed, bindings_singleFile h,
    (List.perm_append_singleton _ _).nodup_iff, List.nodup_cons,
    and_iff_right (schemaName_not_mem_bindings schema), nodup_bindings_iff, and_iff_right hagree]
  constructor
  · rintro ⟨⟨henums, htables, hrelations⟩, hfree⟩
    refine ⟨henums, htables, fun enum henum hfunction => ?_, fun model hmodel other hother =>
      ⟨fun hname => ?_, hrelations model hmodel other hother⟩⟩
    · refine hfree _ _ (List.mem_append_left _ ?_) (requires_enumFunction h henum hfunction)
      exact mem_names.mpr (.inl ⟨enum, henum, rfl⟩)
    · refine hfree _ _ (List.mem_append_left _ ?_) (requires_relationsFunction h hother)
      exact mem_names.mpr (.inr (.inl ⟨model, hmodel, hname⟩))
  · intro hseparates
    refine ⟨⟨hseparates.enums, hseparates.tables, fun model hmodel other hother => ?_⟩,
      fun source name hname => hseparates.not_requires hbare h hname source⟩
    exact (hseparates.relations model hmodel other hother).2

end Schema

def Datamodel.Bare (datamodel : Datamodel) : Prop :=
  ∀ model ∈ datamodel.models, ∀ field ∈ model.fields, field.Bare

theorem Schema.bare_of_ofDatamodel {config : Config} {datamodel : Datamodel} {schema : Schema}
    (hbare : datamodel.Bare) (h : Schema.ofDatamodel config datamodel = .ok schema) :
    schema.Bare := by
  obtain ⟨joins, hjoins, rfl, -⟩ := ofDatamodel_eq_ok.mp h
  obtain ⟨links, hlinks⟩ := JoinTable.ofModels_realizes hjoins
  intro model hmodel field hfield
  rcases List.mem_append.mp hmodel with hmodel | hmodel
  · obtain ⟨input, hinput, rfl⟩ := List.mem_map.mp hmodel
    obtain ⟨original, horiginal, rfl⟩ := List.mem_map.mp hfield
    have horiginal := hbare input hinput original horiginal
    rwa [Field.Bare, JoinTable.turnField_documentation]
  · obtain ⟨join, hjoin, rfl⟩ := List.mem_map.mp hmodel
    obtain ⟨link, -, htable⟩ := hlinks.exists_link hjoin
    obtain ⟨aId, bId, -, -, rfl⟩ := ManyToMany.joinTable_eq_ok.mp htable
    rcases ManyToMany.mem_table_fields.mp hfield with rfl | rfl | rfl | rfl <;>
    · intro documentation hdocumentation
      cases hdocumentation

structure Datamodel.NamedInAscii (datamodel : Datamodel) : Prop where
  models : ∀ model ∈ datamodel.models, Naming.Ascii model.name.toList
  relations : ∀ model ∈ datamodel.models, ∀ field ∈ model.relationFields,
    Naming.Ascii field.relation.name.toList
  enums : ∀ enum ∈ datamodel.enums, Naming.Ascii enum.name.toList

theorem Schema.namedInAscii_of_ofDatamodel {config : Config} {datamodel : Datamodel}
    {schema : Schema} (hascii : datamodel.NamedInAscii)
    (h : Schema.ofDatamodel config datamodel = .ok schema) : schema.NamedInAscii := by
  obtain ⟨joins, hjoins, rfl, -⟩ := ofDatamodel_eq_ok.mp h
  obtain ⟨links, hlinks⟩ := JoinTable.ofModels_realizes hjoins
  refine ⟨fun model hmodel => ?_, fun enum henum => hascii.enums enum (mem_writtenEnums.mp henum).2⟩
  rcases List.mem_append.mp hmodel with hmodel | hmodel
  · obtain ⟨input, hinput, rfl⟩ := List.mem_map.mp hmodel
    exact hascii.models input hinput
  · obtain ⟨join, hjoin, rfl⟩ := List.mem_map.mp hmodel
    obtain ⟨link, hlink, htable⟩ := hlinks.exists_link hjoin
    have hislink := hlinks.sound link hlink
    have hrelation := hascii.relations link.model hislink.model_mem link.field hislink.field_mem
    rw [ManyToMany.table_name htable, String.toList_append]
    exact Naming.ascii_append.mpr ⟨Naming.ascii_of_all (by decide), hrelation⟩

theorem modules_bindsOnce_iff {config : Config} {datamodel : Datamodel} {modules : List Module}
    (hbare : datamodel.Bare) (h : datamodel.modules config = .ok modules) :
    ∃ schema, Schema.ofDatamodel config datamodel = .ok schema ∧
      ((∀ m ∈ modules, m.BindsOnce) ↔ schema.SeparatesBindings config.outputMode) ∧
      (config.outputMode = .directory → datamodel.NamedInAscii →
        (datamodel.enums.map (Naming.enumBinding ·.name)).Nodup →
        ((∀ m ∈ modules, m.BindsOnce) ↔ schema.SeparatesImports)) := by
  obtain ⟨schema, d, hschema, hd, rfl⟩ := Datamodel.modules_eq_ok.mp h
  have hbare := Schema.bare_of_ofDatamodel hbare hschema
  have hexact : (∀ m ∈ d.modules config, m.BindsOnce) ↔
      schema.SeparatesBindings config.outputMode := by
    unfold Declarations.modules
    cases config.outputMode with
    | directory => exact Schema.bindsOnce_directory_iff hbare hd config.resolution
    | singleFile stem =>
      rw [List.forall_mem_singleton]
      exact Schema.bindsOnce_singleFile_iff hbare hd config.resolution stem
  refine ⟨schema, hschema, hexact, fun hmode hascii henums => ?_⟩
  have hnamed := Schema.namedInAscii_of_ofDatamodel hascii hschema
  have hwritten : (schema.writtenEnums.map (Naming.enumBinding ·.name)).Nodup := by
    obtain ⟨joins, -, rfl, -⟩ := Schema.ofDatamodel_eq_ok.mp hschema
    unfold Schema.writtenEnums
    split
    · exact henums
    · exact List.nodup_nil
  rw [hexact, hmode]
  exact Schema.separatesInDirectory_iff_of_ascii hnamed hwritten

instance (datamodel : Datamodel) : Decidable datamodel.Bare :=
  inferInstanceAs (Decidable (∀ model ∈ datamodel.models, ∀ field ∈ model.fields, field.Bare))

theorem rolePosts_bindsOnce : (rolePosts "role").Bare ∧
    ∃ modules, (rolePosts "role").modules (Config.ofDialect .postgres) = .ok modules ∧
      ∀ m ∈ modules, m.BindsOnce := by
  have hbare : (rolePosts "role").Bare := by decide
  have hwritten : ((rolePosts "role").modules (Config.ofDialect .postgres)).isOk = true := by
    decide
  have hseparates : (Schema.ofDatamodel (Config.ofDialect .postgres)
      (rolePosts "role")).toOption.any (fun schema => schema.SeparatesInDirectory) = true := by
    decide
  have hmode : (Config.ofDialect .postgres).outputMode = .directory := by decide
  obtain ⟨modules, h⟩ := exists_of_isOk hwritten
  obtain ⟨schema, hschema, hiff, -⟩ := modules_bindsOnce_iff hbare h
  obtain ⟨schema', hschema', hseparates⟩ := exists_of_any hseparates
  obtain rfl := Except.ok.inj (hschema.symm.trans hschema')
  have hseparates : schema.SeparatesInDirectory := of_decide_eq_true hseparates
  rw [hmode] at hiff
  exact ⟨hbare, modules, h, hiff.mpr hseparates⟩

def personRelations : Datamodel where
  models := [
    { name := "Person", fields := [
      { name := "id", type := "Int", isId := true },
      { name := "relations", kind := .object, type := "Relation", isList := true,
        relationName := some "R" }] },
    { name := "Relation", fields := [
      { name := "id", type := "Int", isId := true },
      { name := "personId", type := "Int" },
      { name := "person", kind := .object, type := "Person", relationName := some "R",
        relationFromFields := ["personId"], relationToFields := ["id"] }] }]

theorem personRelations_not_bindsOnce : personRelations.Bare ∧
    (personRelations.models.map (Naming.tableBinding ·.name)).Nodup ∧
    (personRelations.enums.map (Naming.enumBinding ·.name)).Nodup ∧
    ∃ modules, personRelations.modules (Config.ofDialect .postgres) = .ok modules ∧
      ∃ m ∈ modules, ¬ m.BindsOnce := by
  have htwice : (personRelations.modules (Config.ofDialect .postgres)).toOption.any
      (fun modules => modules.any fun m =>
        m.imports.flatMap Requirement.bindings = ["relations", "persons", "relations"]) = true := by
    decide
  obtain ⟨modules, h, htwice⟩ := exists_of_any htwice
  obtain ⟨m, hm, htwice⟩ := List.any_eq_true.mp htwice
  refine ⟨by decide, by decide, by decide, modules, h, m, hm, fun honce => ?_⟩
  have himports := (List.nodup_append.mp honce).1
  rw [of_decide_eq_true htwice] at himports
  exact absurd himports (by decide)

end SchemaWriter
