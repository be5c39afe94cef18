import SchemaWriter.Proofs.Column.Free
import SchemaWriter.Proofs.Module.Closed
import SchemaWriter.Proofs.Requirement.Distinct
import SchemaWriter.Proofs.Schema.References
import SchemaWriter.Proofs.Schema.Required

namespace SchemaWriter

open Outcome
open Requirement (Requires)

namespace Model

structure Imported (dialect : Dialect) (mode : DateMode) (model : Model) (names : List String)
    (enums : List (String × List String)) : Prop where
  names_nodup : names.Nodup
  mem_names : ∀ name, name ∈ names ↔ model.UsesCore dialect mode name
  modules_nodup : (enums.map Prod.fst).Nodup
  mem_modules : ∀ module, module ∈ enums.map Prod.fst ↔
    ∃ field ∈ model.columns, field.kind = .enum ∧ Naming.enumModule field.type = module
  bindings_nodup : ∀ enum ∈ enums, enum.2.Nodup
  mem_bindings : ∀ enum ∈ enums, ∀ name, name ∈ enum.2 ↔ ∃ field ∈ model.columns,
    field.kind = .enum ∧ Naming.enumModule field.type = enum.1 ∧
      Naming.enumBinding field.type = name

def importBlock (dialect : Dialect) (names : List String) (enums : List (String × List String)) :
    List Requirement :=
  .named names dialect.coreModule :: enums.map fun enum => ⟨.named enum.2, .sibling enum.1⟩

variable {dialect : Dialect} {mode : DateMode} {model : Model} {table : Fragment}

theorem requires_core_iff (hbare : ∀ field ∈ model.columns, field.Bare)
    (h : model.declaration dialect mode = .ok table) {name : String} :
    Requires table.imports (.package dialect.coreModule) name ↔
      model.UsesCore dialect mode name := by
  simp only [Requires, mem_imports_declaration hbare h]
  constructor
  · rintro ⟨r, ⟨function, hfunction, rfl⟩ | ⟨field, -, -, rfl⟩, hsource, hname⟩
    · rwa [List.mem_singleton.mp hname]
    · cases hsource
  · exact fun hname => ⟨_, .inl ⟨name, hname, rfl⟩, rfl, List.mem_singleton_self name⟩

theorem requires_sibling_iff (hbare : ∀ field ∈ model.columns, field.Bare)
    (h : model.declaration dialect mode = .ok table) {module name : String} :
    Requires table.imports (.sibling module) name ↔ ∃ field ∈ model.columns,
      field.kind = .enum ∧ Naming.enumModule field.type = module ∧
        Naming.enumBinding field.type = name := by
  simp only [Requires, mem_imports_declaration hbare h]
  constructor
  · rintro ⟨r, ⟨function, -, rfl⟩ | ⟨field, hfield, hkind, rfl⟩, hsource, hname⟩
    · cases hsource
    · exact ⟨field, hfield, hkind, Specifier.sibling.inj hsource,
        (List.mem_singleton.mp hname).symm⟩
  · rintro ⟨field, hfield, hkind, rfl, rfl⟩
    exact ⟨_, .inr ⟨field, hfield, hkind, rfl⟩, rfl, List.mem_singleton_self _⟩

theorem exists_sibling_iff (hbare : ∀ field ∈ model.columns, field.Bare)
    (h : model.declaration dialect mode = .ok table) {module : String} :
    (∃ r ∈ table.imports, r.source = .sibling module) ↔ ∃ field ∈ model.columns,
      field.kind = .enum ∧ Naming.enumModule field.type = module := by
  simp only [mem_imports_declaration hbare h]
  constructor
  · rintro ⟨r, ⟨function, -, rfl⟩ | ⟨field, hfield, hkind, rfl⟩, hsource⟩
    · cases hsource
    · exact ⟨field, hfield, hkind, Specifier.sibling.inj hsource⟩
  · rintro ⟨field, hfield, hkind, rfl⟩
    exact ⟨_, .inr ⟨field, hfield, hkind, rfl⟩, rfl⟩

theorem exists_merge_eq (hbare : ∀ field ∈ model.columns, field.Bare)
    (h : model.declaration dialect mode = .ok table) :
    ∃ names others, Requirement.merge table.imports =
      .named names dialect.coreModule :: others ∧
        ∀ r ∈ others, ∃ enum : String × List String, r = ⟨.named enum.2, .sibling enum.1⟩ := by
  have hnamed := isNamed_of_mem_declaration h
  have hfirst : ∃ rest, table.imports = dialect.coreImport dialect.tableFunction :: rest := by
    obtain ⟨columns, key, -, -, rfl⟩ := declaration_eq_ok.mp h
    exact ⟨_, imports_tableFragment dialect model columns key⟩
  obtain ⟨rest, hrest⟩ := hfirst
  obtain ⟨keys, hkeys⟩ :=
    Requirement.exists_map_key_merge_cons (dialect.coreImport dialect.tableFunction) rest
  rw [← hrest] at hkeys
  have hnodup := Requirement.nodup_sources_merge hnamed
  have hnames : ∀ r ∈ Requirement.merge table.imports, ∃ names source,
      r = ⟨.named names, source⟩ := fun _ => Requirement.exists_eq_of_mem_merge hnamed
  have hsources : ∀ r ∈ Requirement.merge table.imports, ∃ required ∈ table.imports,
      required.source = r.source := fun r hr => Requirement.exists_source_merge.mp ⟨r, hr, rfl⟩
  cases hmerge : Requirement.merge table.imports with
  | nil => simp [hmerge] at hkeys
  | cons core others =>
    rw [hmerge] at hkeys hnodup hnames hsources
    obtain ⟨names, source, rfl⟩ := hnames core List.mem_cons_self
    obtain rfl : source = .package dialect.coreModule :=
      congrArg Requirement.source (List.cons.inj hkeys).1
    refine ⟨names, others, rfl, fun r hr => ?_⟩
    obtain ⟨required, hrequired, hsource⟩ := hsources r (List.mem_cons_of_mem _ hr)
    obtain ⟨bindings, source, rfl⟩ := hnames r (List.mem_cons_of_mem _ hr)
    rcases (mem_imports_declaration hbare h).mp hrequired with
      ⟨function, -, rfl⟩ | ⟨field, -, -, rfl⟩
    · refine absurd ?_ (List.nodup_cons.mp hnodup).1
      exact List.mem_map.mpr ⟨_, hr, hsource.symm⟩
    · obtain rfl : .sibling (Naming.enumModule field.type) = source := hsource
      exact ⟨(Naming.enumModule field.type, bindings), rfl⟩

theorem exists_imported (hbare : ∀ field ∈ model.columns, field.Bare)
    (h : model.declaration dialect mode = .ok table) :
    ∃ names enums, model.Imported dialect mode names enums ∧
      Requirement.merge table.imports = importBlock dialect names enums := by
  have hnamed := isNamed_of_mem_declaration h
  obtain ⟨names, others, hmerge, hothers⟩ := exists_merge_eq hbare h
  obtain ⟨enums, henums⟩ := exists_forall₂_iff.mpr hothers
  have hblock : Requirement.merge table.imports = importBlock dialect names enums := by
    rw [hmerge, importBlock]
    congr 1
    rw [← List.forall₂_eq_eq_eq, List.forall₂_map_right_iff]
    exact henums
  have hcore : .named names dialect.coreModule ∈ Requirement.merge table.imports := by
    rw [hblock]
    exact List.mem_cons_self
  have henum : ∀ enum ∈ enums, ⟨.named enum.2, .sibling enum.1⟩ ∈
      Requirement.merge table.imports := by
    intro enum hmem
    rw [hblock]
    exact List.mem_cons_of_mem _ (List.mem_map_of_mem hmem)
  have hsettled := Requirement.settled_merge table.imports
  refine ⟨names, enums, ⟨?_, fun name => ?_, ?_, fun module => ?_, ?_, ?_⟩, hblock⟩
  · exact hsettled.bindings _ hcore
  · exact (Requirement.mem_names_merge hnamed hcore).trans (requires_core_iff hbare h)
  · have hnodup := Requirement.nodup_sources_merge hnamed
    rw [hblock, importBlock, List.map_cons, List.map_map] at hnodup
    refine List.Nodup.of_map Specifier.sibling ?_
    rw [List.map_map]
    exact (List.nodup_cons.mp hnodup).2
  · rw [← exists_sibling_iff hbare h, ← Requirement.exists_source_merge, hblock]
    simp [importBlock, Requirement.named]
  · exact fun enum hmem => hsettled.bindings _ (henum enum hmem)
  · exact fun enum hmem name => (Requirement.mem_names_merge hnamed (henum enum hmem)).trans
      (requires_sibling_iff hbare h)

theorem free_keyCallback (dialect : Dialect) (key : CompoundKey) :
    (keyCallback dialect key).free = ["primaryKey"] := by
  have hcallee : Fragment.before '.' "primaryKey" = "primaryKey" := by decide
  have hmember : ∀ name, Fragment.freeOfSource ("table." ++ name) = ["table"] := by
    simp [Fragment.freeOfSource, Fragment.root_member]
  have hoptions : ∀ name ∈ (keyOptions key).flatMap (·.2.free), name = "table" := by
    cases hname : key.name <;> simp [keyOptions, hname, List.flatMap_map, hmember]
  simpa [keyCallback, hcallee] using hoptions

theorem keyArguments_selfContained {arguments : List Fragment}
    (h : model.keyArguments dialect = .ok arguments) :
    ∀ argument ∈ arguments, argument.SelfContained := by
  obtain rfl | ⟨key, -, -, -, rfl⟩ := keyArguments_eq_ok h
  · exact List.forall_mem_nil _
  · refine List.forall_mem_singleton.mpr ⟨?_, ?_⟩ <;>
      rw [imports_keyCallback, free_keyCallback] <;>
      simp [Dialect.coreImport, Requirement.named, Requirement.names]

theorem columnEntries_selfContained {columns : List (String × Fragment)}
    (hbare : ∀ field ∈ model.columns, field.Bare)
    (h : model.columnEntries dialect mode model.columns = .ok columns) :
    ∀ entry ∈ columns, entry.2.SelfContained := by
  intro entry hentry
  obtain ⟨field, hfield, column, hcolumn, rfl⟩ :=
    exists_of_mem_right (columnEntries_eq_ok.mp h) hentry
  exact Field.column_selfContained (hbare field hfield) hcolumn

theorem tableBinding_not_imported (hbare : ∀ field ∈ model.columns, field.Bare)
    (h : model.declaration dialect mode = .ok table) :
    ∀ r ∈ table.imports, ∀ name ∈ r.names, name ≠ Naming.tableBinding model.name := by
  intro r hr name hname
  rcases (mem_imports_declaration hbare h).mp hr with
    ⟨function, hfunction, rfl⟩ | ⟨field, -, -, rfl⟩
  · rw [List.mem_singleton.mp hname]
    intro hsame
    have hlibrary := hfunction.isLibraryName
    rw [hsame, Naming.isLibraryName_tableBinding] at hlibrary
    cases hlibrary
  · rw [List.mem_singleton.mp hname]
    exact Naming.enumBinding_ne_tableBinding _ _

theorem declaration_selfContained (hbare : ∀ field ∈ model.columns, field.Bare)
    (h : model.declaration dialect mode = .ok table) : table.SelfContained := by
  have hforeign := tableBinding_not_imported hbare h
  obtain ⟨columns, key, hcolumns, hkey, rfl⟩ := declaration_eq_ok.mp h
  have hcallee : Fragment.before '.' dialect.tableFunction = dialect.tableFunction := by
    cases dialect <;> decide
  have harguments : ∀ argument ∈ [.string model.tableName, .record columns] ++ key,
      argument.SelfContained := by
    refine List.forall_mem_cons.mpr ⟨Fragment.IsLiteral.selfContained (.string _), ?_⟩
    refine List.forall_mem_cons.mpr ⟨?_, keyArguments_selfContained hkey⟩
    exact .record (columnEntries_selfContained hbare hcolumns)
  have hvalue : ((Fragment.invoke dialect.tableFunction
      ([.string model.tableName, .record columns] ++ key)).withImports
        [dialect.coreImport dialect.tableFunction]).SelfContained := .invoke hcallee harguments
  constructor
  · intro r hr name hname
    rw [tableFragment, Fragment.free_declaration, List.mem_filter]
    exact ⟨hvalue.used r hr name hname, decide_eq_true (hforeign r hr name hname)⟩
  · intro name hname
    rw [tableFragment, Fragment.free_declaration] at hname
    exact hvalue.imported name (List.mem_filter.mp hname).1

theorem declaration_verbatims (hbare : ∀ field ∈ model.columns, field.Bare)
    (h : model.declaration dialect mode = .ok table) :
    ∀ source ∈ table.verbatims, Expression source ∨
      ∃ name, model.hasColumn name = true ∧ source = "table." ++ name := by
  obtain ⟨columns, key, hcolumns, hkey, rfl⟩ := declaration_eq_ok.mp h
  have hverbatims : (tableFragment dialect model columns key).verbatims =
      columns.flatMap (·.2.verbatims) ++ key.flatMap Fragment.verbatims := by
    simp [tableFragment, Fragment.verbatims]
  rw [hverbatims]
  intro source hsource
  rcases List.mem_append.mp hsource with hsource | hsource
  · obtain ⟨entry, hentry, hsource⟩ := List.mem_flatMap.mp hsource
    obtain ⟨field, hfield, column, hcolumn, rfl⟩ :=
      exists_of_mem_right (columnEntries_eq_ok.mp hcolumns) hentry
    exact .inl (Field.column_verbatims (hbare field hfield) hcolumn source hsource)
  · obtain rfl | ⟨compound, -, -, hfields, rfl⟩ := keyArguments_eq_ok hkey
    · cases hsource
    · rw [List.flatMap_singleton, verbatims_keyCallback] at hsource
      obtain ⟨name, hname, rfl⟩ := List.mem_map.mp hsource
      exact .inr ⟨name, hfields name hname, rfl⟩

end Model

structure TableModule (dialect : Dialect) (mode : DateMode) (model : Model) (table : Fragment)
    (m : Module) : Prop where
  declarations : m.declarations = [table]
  imports : ∃ names enums, model.Imported dialect mode names enums ∧
    m.imports = Model.importBlock dialect names enums
  used : ∀ r ∈ m.imports, ∀ name ∈ r.names, name ∈ table.free
  imported : ∀ name ∈ table.free, name ∈ globals ∨ ∃ r ∈ m.imports, name ∈ r.names
  verbatims : ∀ source ∈ table.verbatims, Expression source ∨
    ∃ name, model.hasColumn name = true ∧ source = "table." ++ name

theorem Model.imports_assemble {dialect : Dialect} {mode : DateMode} {model : Model}
    {table : Fragment} (hbare : ∀ field ∈ model.columns, field.Bare)
    (h : model.declaration dialect mode = .ok table) (resolution : Resolution) :
    (Module.assemble resolution (Naming.tableModule model.name) [table]).imports =
      Requirement.merge table.imports := by
  have hother : ∀ r ∈ table.imports, r.source ≠ .sibling (Naming.tableModule model.name) := by
    intro r hr hsource
    obtain ⟨field, -, -, hmodule⟩ := (exists_sibling_iff hbare h).mp ⟨r, hr, hsource⟩
    simpa using congrArg Naming.last? hmodule
  have hrequired : Module.requirements [table] = table.imports := List.flatMap_singleton _ _
  rw [Module.assemble, hrequired, List.filter_eq_self.mpr]
  simpa using hother

theorem Model.tableModule_assemble {dialect : Dialect} {mode : DateMode} {model : Model}
    {table : Fragment} (hbare : ∀ field ∈ model.columns, field.Bare)
    (h : model.declaration dialect mode = .ok table) (resolution : Resolution) :
    TableModule dialect mode model table
      (Module.assemble resolution (Naming.tableModule model.name) [table]) := by
  have himports := imports_assemble hbare h resolution
  have hself := declaration_selfContained hbare h
  obtain ⟨names, enums, himported, hmerge⟩ := exists_imported hbare h
  refine ⟨rfl, ⟨names, enums, himported, himports.trans hmerge⟩, ?_, ?_,
    declaration_verbatims hbare h⟩
  · rw [himports]
    intro r hr name hname
    obtain ⟨required, hrequired, -, hname⟩ := Requirement.requires_merge.mp ⟨r, hr, rfl, hname⟩
    exact hself.used required hrequired name hname
  · rw [himports]
    intro name hname
    refine (hself.imported name hname).imp_right ?_
    rintro ⟨required, hrequired, hname⟩
    obtain ⟨r, hr, -, hname⟩ :=
      Requirement.requires_merge.mpr ⟨required, hrequired, rfl, hname⟩
    exact ⟨r, hr, hname⟩

theorem modules_tableModules {config : Config} {datamodel : Datamodel} {modules : List Module}
    (hdirectory : config.outputMode = .directory) (h : datamodel.modules config = .ok modules) :
    ∃ schema, Schema.ofDatamodel config datamodel = .ok schema ∧ ∀ model ∈ schema.allModels,
      (∀ field ∈ model.columns, field.Bare) →
        ∃ table, model.declaration config.dialect config.dateMode = .ok table ∧
          ∃ m ∈ modules, m = Module.assemble config.resolution (Naming.tableModule model.name)
            [table] ∧ TableModule config.dialect config.dateMode model table m := by
  obtain ⟨schema, d, hschema, hd, rfl⟩ := Datamodel.modules_eq_ok.mp h
  have hconfig := Schema.config_of_ofDatamodel hschema
  refine ⟨schema, hschema, fun model hmodel hbare => ?_⟩
  obtain ⟨one, hone, hdeclare⟩ := Schema.exists_table hd hmodel
  obtain ⟨table, htable, rfl⟩ := Schema.declareTable_eq_ok.mp hdeclare
  rw [hconfig] at htable
  have hmem : Module.assemble config.resolution (Naming.tableModule model.name) [table] ∈
      d.modules config := by
    simp only [Declarations.modules, hdirectory, Declarations.directory_eq]
    exact List.mem_append_left _ (List.mem_map.mpr ⟨_, hone, rfl⟩)
  exact ⟨table, htable, _, hmem, rfl, Model.tableModule_assemble hbare htable config.resolution⟩

namespace Assignments

def assignment : Model where
  name := "Assignment"
  fields := [
    { name := "userId", type := "Int", isRequired := true },
    { name := "projectId", type := "Int", isRequired := true },
    { name := "role", kind := .enum, type := "Role", isRequired := true },
    { name := "since", type := "DateTime", isRequired := true,
      defaultValue := some (.function "now" []) },
    { name := "until", type := "DateTime",
      defaultValue := some (.literal (.string "2030-01-01T00:00:00Z")) }]
  primaryKey := some { fields := ["userId", "projectId"] }

def datamodel : Datamodel where
  models := [assignment]
  enums := [{ name := "Role", values := [{ name := "OWNER" }] }]

end Assignments

theorem assignments_tableModules :
    (Config.ofDialect .postgres).outputMode = .directory ∧
    (∀ field ∈ Assignments.assignment.columns, field.Bare) ∧ ∃ modules,
      Assignments.datamodel.modules (Config.ofDialect .postgres) = .ok modules ∧
      ∃ table, ∃ m ∈ modules, m.imports =
        Model.importBlock .postgres ["pgTable", "integer", "timestamp", "primaryKey"]
          [("role-enum", ["roleEnum"])] ∧
        TableModule .postgres .date Assignments.assignment table m := by
  have hwritten : (Assignments.datamodel.modules (Config.ofDialect .postgres)).isOk = true := by
    decide
  have hbare : ∀ field ∈ Assignments.assignment.columns, field.Bare := by decide
  have himports : (Assignments.assignment.declaration .postgres .date).toOption.any (fun table =>
      (Module.assemble .bundler (Naming.tableModule "Assignment") [table]).imports =
        Model.importBlock .postgres ["pgTable", "integer", "timestamp", "primaryKey"]
          [("role-enum", ["roleEnum"])]) = true := by
    decide
  obtain ⟨modules, h⟩ := exists_of_isOk hwritten
  obtain ⟨schema, hschema, hmodules⟩ := modules_tableModules rfl h
  have hsame : Schema.ofDatamodel (Config.ofDialect .postgres) Assignments.datamodel =
      .ok ⟨Config.ofDialect .postgres, [Assignments.assignment], [],
        Assignments.datamodel.enums⟩ := rfl
  obtain rfl := Except.ok.inj (hschema.symm.trans hsame)
  obtain ⟨table, htable, m, hm, hname, hmodule⟩ :=
    hmodules Assignments.assignment List.mem_cons_self hbare
  obtain ⟨table', htable', himports⟩ := exists_of_any himports
  obtain rfl := Except.ok.inj (htable.symm.trans htable')
  refine ⟨rfl, hbare, modules, h, table, m, hm, ?_, hmodule⟩
  rw [hname]
  exact of_decide_eq_true himports

end SchemaWriter
