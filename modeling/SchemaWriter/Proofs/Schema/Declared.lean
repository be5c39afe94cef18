import SchemaWriter.Proofs.Column.Built
import SchemaWriter.Proofs.Schema.Resolved
import SchemaWriter.Schema.Relations
import SchemaWriter.Schema.Table

namespace SchemaWriter

open Outcome

namespace Model

def tableFragment (dialect : Dialect) (model : Model) (columns : List (String × Fragment))
    (key : List Fragment) : Fragment :=
  .declaration (Naming.tableBinding model.name)
    ((Fragment.invoke dialect.tableFunction
      ([.string model.tableName, .record columns] ++ key)).withImports
        [dialect.coreImport dialect.tableFunction]) true

def keyOptions (key : CompoundKey) : List (String × Fragment) :=
  (match key.name with
    | some name => [("name", Fragment.string name)]
    | none => []) ++
  [("columns", .array (key.fields.map fun name => .verbatim ("table." ++ name)))]

def keyCallback (dialect : Dialect) (key : CompoundKey) : Fragment :=
  .lambda ["table"] (.record [("pk", (Fragment.invoke "primaryKey"
    [.record (keyOptions key)]).withImports [dialect.coreImport "primaryKey"])])

theorem columnEntries_eq_ok {dialect : Dialect} {mode : DateMode} {model : Model}
    {fields : List Field} {entries : List (String × Fragment)} :
    model.columnEntries dialect mode fields = .ok entries ↔
      List.Forall₂ (fun field entry => ∃ column, field.column dialect mode model = .ok column ∧
        (field.name, column.fragment dialect) = entry) fields entries := by
  rw [traversal_eq_ok (g := model.columnEntries dialect mode)
    (f := fun field => return (field.name, (← field.column dialect mode model).fragment dialect))
    rfl]
  · simp only [bind_eq_ok, pure_eq_ok]
  · intro field rest
    simp [columnEntries]

theorem keyReferences_eq_ok {model : Model} {names : List String} {references : List Fragment} :
    model.keyReferences names = .ok references ↔
      (∀ name ∈ names, model.hasColumn name = true) ∧
        references = names.map fun name => .verbatim ("table." ++ name) := by
  induction names generalizing references with
  | nil => cases references <;> simp [keyReferences]
  | cons name rest ih =>
    rw [keyReferences]
    split
    · rename_i hcolumn
      simp only [bind_eq_ok, pure_eq_ok, ih, List.forall_mem_cons, hcolumn, true_and, List.map_cons]
      constructor
      · rintro ⟨_, ⟨hrest, rfl⟩, rfl⟩
        exact ⟨hrest, rfl⟩
      · rintro ⟨hrest, rfl⟩
        exact ⟨_, ⟨hrest, rfl⟩, rfl⟩
    · rename_i hcolumn
      simp [hcolumn]

theorem keyArguments_eq_ok {dialect : Dialect} {model : Model} {arguments : List Fragment}
    (h : model.keyArguments dialect = .ok arguments) :
    arguments = [] ∨ ∃ key, model.primaryKey = some key ∧ key.fields ≠ [] ∧
      (∀ name ∈ key.fields, model.hasColumn name = true) ∧
      arguments = [keyCallback dialect key] := by
  unfold keyArguments at h
  split at h
  · exact .inl (Except.ok.inj h).symm
  · rename_i key hkey
    split at h
    · exact .inl (Except.ok.inj h).symm
    · rename_i hfields
      obtain ⟨callback, hcallback, rfl⟩ := map_eq_ok.mp h
      obtain ⟨references, hreferences, hcallback⟩ := bind_eq_ok.mp hcallback
      obtain ⟨hcolumns, rfl⟩ := keyReferences_eq_ok.mp hreferences
      refine .inr ⟨key, hkey, by simpa using hfields, hcolumns, ?_⟩
      exact congrArg (fun callback => [callback]) (pure_eq_ok.mp hcallback).symm

theorem declaration_eq_ok {dialect : Dialect} {mode : DateMode} {model : Model}
    {table : Fragment} :
    model.declaration dialect mode = .ok table ↔ ∃ columns key,
      model.columnEntries dialect mode model.columns = .ok columns ∧
      model.keyArguments dialect = .ok key ∧ table = tableFragment dialect model columns key := by
  simp only [declaration, bind_eq_ok, pure_eq_ok]
  constructor
  · rintro ⟨columns, hcolumns, key, hkey, rfl⟩
    exact ⟨columns, key, hcolumns, hkey, rfl⟩
  · rintro ⟨columns, key, hcolumns, hkey, rfl⟩
    exact ⟨columns, hcolumns, key, hkey, rfl⟩

theorem name?_tableFragment (dialect : Dialect) (model : Model)
    (columns : List (String × Fragment)) (key : List Fragment) :
    (tableFragment dialect model columns key).name? = some (Naming.tableBinding model.name) :=
  rfl

theorem imports_keyCallback (dialect : Dialect) (key : CompoundKey) :
    (keyCallback dialect key).imports = [dialect.coreImport "primaryKey"] := by
  cases hname : key.name <;> simp [keyCallback, keyOptions, hname, List.flatMap_map]

theorem declaration_sibling {dialect : Dialect} {mode : DateMode} {model : Model}
    {table : Fragment} (h : model.declaration dialect mode = .ok table) {r : Requirement}
    (hr : r ∈ table.imports) (hsibling : r.source.isSibling = true) :
    ∃ field ∈ model.fields, field.kind = .enum ∧ dialect.hasEnums = true ∧
      r = .sibling (Naming.enumBinding field.type) (Naming.enumModule field.type) := by
  obtain ⟨columns, key, hcolumns, hkey, rfl⟩ := declaration_eq_ok.mp h
  simp only [tableFragment, Fragment.imports_declaration, Fragment.imports_invoke_withImports,
    List.flatMap_append, List.flatMap_cons, List.flatMap_nil, Fragment.imports_string,
    Fragment.imports_record, List.append_nil, List.nil_append, List.mem_append,
    List.mem_singleton] at hr
  rcases hr with hr | hr | hr
  · simp [hr, Dialect.coreImport, Requirement.named, Specifier.isSibling] at hsibling
  · obtain ⟨entry, hentry, hr⟩ := List.mem_flatMap.mp hr
    obtain ⟨field, hfield, column, hcolumn, rfl⟩ :=
      exists_of_mem_right (columnEntries_eq_ok.mp hcolumns) hentry
    exact ⟨field, (List.mem_filter.mp hfield).1, Field.column_sibling hcolumn hr hsibling⟩
  · obtain rfl | ⟨key, -, -, -, rfl⟩ := keyArguments_eq_ok hkey
    · simp at hr
    · simp only [List.flatMap_cons, List.flatMap_nil, List.append_nil, imports_keyCallback,
        List.mem_singleton] at hr
      simp [hr, Dialect.coreImport, Requirement.named, Specifier.isSibling] at hsibling

end Model

namespace EnumType

theorem declaration?_eq_some {dialect : Dialect} {enum : EnumType} {fragment : Fragment}
    (h : enum.declaration? dialect = some fragment) :
    fragment.name? = some (Naming.enumBinding enum.name) ∧
      ∀ r ∈ fragment.imports, r.source.isSibling = false := by
  obtain ⟨value, hvalue, rfl⟩ := Option.map_eq_some_iff.mp h
  refine ⟨rfl, ?_⟩
  cases dialect with
  | postgres =>
    obtain rfl := Option.some.inj hvalue
    simp [valueLiterals, List.flatMap_map, Dialect.coreImport, Requirement.named,
      Specifier.isSibling]
  | mysql =>
    obtain rfl := Option.some.inj hvalue
    simp [valueLiterals, List.flatMap_map, Dialect.coreImport, Requirement.named,
      Specifier.isSibling]
  | sqlite => simp [Dialect.enumValue?] at hvalue

theorem declaration?_isSome {dialect : Dialect} (h : dialect.hasEnums = true) (enum : EnumType) :
    ∃ fragment, enum.declaration? dialect = some fragment := by
  cases dialect with
  | postgres => exact ⟨_, rfl⟩
  | mysql => exact ⟨_, rfl⟩
  | sqlite => simp [Dialect.hasEnums] at h

end EnumType

namespace Schema

def relationsFragment (model : Model) (entries : List (String × Fragment)) : Fragment :=
  .declaration (Naming.relationsBinding model.name)
    ((Fragment.invoke "relations" [.verbatim (Naming.tableBinding model.name),
      .lambda ["helpers"] (.record entries)]).withImports
        [.named ["relations"] "drizzle-orm",
          .sibling (Naming.tableBinding model.name) (Naming.tableModule model.name)]) true

theorem resolve_eq_ok {schema : Schema} {model related : Model} {field : Field} :
    schema.resolve model field = .ok related ↔
      field.resolve schema.allModels model = .ok related :=
  mapError_eq_ok

theorem relationEntries_eq_ok {schema : Schema} {model : Model} {fields : List Field}
    {entries : List (String × Fragment)} :
    schema.relationEntries model fields = .ok entries ↔
      List.Forall₂ (fun field entry => ∃ related,
        field.resolve schema.allModels model = .ok related ∧
        (field.name, schema.relationEntry model related field) = entry) fields entries := by
  rw [traversal_eq_ok (g := schema.relationEntries model)
    (f := fun field => do
      let related ← schema.resolve model field
      return (field.name, schema.relationEntry model related field)) rfl]
  · simp only [bind_eq_ok, pure_eq_ok, resolve_eq_ok]
  · intro field rest
    simp [relationEntries]

theorem Resolved.exists_entries {schema : Schema} (h : schema.Resolved) {model : Model}
    (hmodel : model ∈ schema.allModels) :
    ∃ entries, schema.relationEntries model model.relationFields = .ok entries := by
  have hentry : ∀ field ∈ model.relationFields, ∃ entry : String × Fragment, ∃ related,
      field.resolve schema.allModels model = .ok related ∧
        (field.name, schema.relationEntry model related field) = entry := by
    intro field hfield
    obtain ⟨related, hrelated⟩ := h model hmodel field hfield
    exact ⟨_, related, hrelated, rfl⟩
  obtain ⟨entries, hentries⟩ := exists_forall₂_iff.mpr hentry
  exact ⟨entries, relationEntries_eq_ok.mpr hentries⟩

theorem relations?_eq_some {schema : Schema} {model : Model} {fragment : Fragment} :
    schema.relations? model = .ok (some fragment) ↔ ∃ entries,
      schema.relationEntries model model.relationFields = .ok entries ∧ entries ≠ [] ∧
      fragment = relationsFragment model entries := by
  unfold relations?
  rw [bind_eq_ok]
  refine exists_congr fun entries => and_congr_right fun _ => ?_
  cases entries with
  | nil => simp [pure, Except.pure]
  | cons entry entries =>
    simp only [List.isEmpty_cons, Bool.false_eq_true, if_false, pure_eq_ok, Option.some.injEq,
      ne_eq, reduceCtorEq, not_false_eq_true, true_and]
    exact eq_comm

theorem imports_reference (model : Model) :
    model.reference.imports =
      [.sibling (Naming.tableBinding model.name) (Naming.tableModule model.name)] :=
  rfl

theorem imports_nameOption (schema : Schema) (model : Model) (field : Field) :
    (schema.nameOption model field).flatMap (·.2.imports) = [] := by
  unfold nameOption
  split <;> simp

theorem imports_columnReferences (binding : String) (names : List String) :
    (columnReferences binding names).imports = [] := by
  simp [columnReferences, List.flatMap_map]

theorem imports_relationEntry (schema : Schema) (model related : Model) (field : Field) :
    (schema.relationEntry model related field).imports =
      [.sibling (Naming.tableBinding related.name) (Naming.tableModule related.name)] := by
  simp only [relationEntry]
  split
  · simp [imports_reference, imports_nameOption, imports_columnReferences]
  · cases hname : schema.nameOption model field with
    | nil => simp [imports_reference]
    | cons option options =>
      have hnone := imports_nameOption schema model field
      rw [hname] at hnone
      simp [imports_reference, hnone]

theorem relations?_sibling {schema : Schema} {model : Model} {fragment : Fragment}
    (hmodel : model ∈ schema.allModels) (h : schema.relations? model = .ok (some fragment))
    {r : Requirement} (hr : r ∈ fragment.imports) (hsibling : r.source.isSibling = true) :
    ∃ related ∈ schema.allModels,
      r = .sibling (Naming.tableBinding related.name) (Naming.tableModule related.name) := by
  obtain ⟨entries, hentries, -, rfl⟩ := relations?_eq_some.mp h
  simp only [relationsFragment, Fragment.imports_declaration, Fragment.imports_invoke_withImports,
    List.flatMap_cons, Fragment.imports_verbatim, Fragment.imports_lambda, Fragment.imports_record,
    List.flatMap_nil, List.nil_append, List.append_nil, List.cons_append, List.mem_cons] at hr
  rcases hr with rfl | rfl | hr
  · simp [Requirement.named, Specifier.isSibling] at hsibling
  · exact ⟨model, hmodel, rfl⟩
  · obtain ⟨entry, hentry, hr⟩ := List.mem_flatMap.mp hr
    obtain ⟨field, -, related, hrelated, rfl⟩ :=
      exists_of_mem_right (relationEntries_eq_ok.mp hentries) hentry
    rw [imports_relationEntry, List.mem_singleton] at hr
    exact ⟨related, (findModel?_eq_some (Field.resolve_eq_ok.mp hrelated).1).1, hr⟩

end Schema

end SchemaWriter
