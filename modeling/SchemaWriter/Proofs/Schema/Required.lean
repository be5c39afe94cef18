import SchemaWriter.Proofs.Column.Named
import SchemaWriter.Proofs.Schema.Sequence

namespace SchemaWriter

open Outcome

theorem Dialect.isLibraryName_constructor (dialect : Dialect) (mode : DateMode) (scalar : Scalar) :
    Naming.isLibraryName (dialect.constructor mode scalar).function = true := by
  cases dialect <;> cases scalar <;> cases mode <;> decide

theorem Dialect.isLibraryName_tableFunction (dialect : Dialect) :
    Naming.isLibraryName dialect.tableFunction = true := by
  cases dialect <;> decide

def Field.Constructs (dialect : Dialect) (mode : DateMode) (model : Model) (field : Field)
    (function : String) : Prop :=
  ∃ directives scalar, field.directives model = .ok directives ∧
    field.columnType? = some (.scalar scalar) ∧
    function = (dialect.constructor (Field.dateMode directives mode) scalar).function

def Model.HasKey (model : Model) : Prop :=
  ∃ key, model.primaryKey = some key ∧ key.fields ≠ []

def Model.UsesCore (dialect : Dialect) (mode : DateMode) (model : Model) (function : String) :
    Prop :=
  function = dialect.tableFunction ∨
    (∃ field ∈ model.columns, field.Constructs dialect mode model function) ∨
    function = "primaryKey" ∧ model.HasKey

theorem Model.UsesCore.isLibraryName {dialect : Dialect} {mode : DateMode} {model : Model}
    {function : String} (h : model.UsesCore dialect mode function) :
    Naming.isLibraryName function = true := by
  rcases h with rfl | ⟨field, -, directives, scalar, -, -, rfl⟩ | ⟨rfl, -⟩
  · exact dialect.isLibraryName_tableFunction
  · exact dialect.isLibraryName_constructor _ scalar
  · decide

theorem Field.mem_imports_column {dialect : Dialect} {mode : DateMode} {model : Model}
    {field : Field} {column : Column} (hbare : field.Bare)
    (h : field.column dialect mode model = .ok column) {r : Requirement} :
    r ∈ (column.fragment dialect).imports ↔
      (∃ function, field.Constructs dialect mode model function ∧
        r = dialect.coreImport function) ∨
      field.kind = .enum ∧
        r = .sibling (Naming.enumBinding field.type) (Naming.enumModule field.type) := by
  rcases Field.column_imports_of_bare hbare h with
    ⟨directives, scalar, hdirectives, hscalar, himports⟩ | ⟨hkind, himports⟩
  · have hkind : field.kind ≠ .enum := by
      intro hkind
      rw [Field.columnType?_eq_enum_iff.mpr hkind] at hscalar
      cases hscalar
    rw [himports, List.mem_singleton]
    constructor
    · rintro rfl
      exact .inl ⟨_, ⟨directives, scalar, hdirectives, hscalar, rfl⟩, rfl⟩
    · rintro (⟨_, ⟨directives', scalar', hdirectives', hscalar', rfl⟩, rfl⟩ | ⟨henum, -⟩)
      · obtain rfl := Except.ok.inj (hdirectives.symm.trans hdirectives')
        obtain rfl := ColumnType.scalar.inj (Option.some.inj (hscalar.symm.trans hscalar'))
        rfl
      · exact absurd henum hkind
  · rw [himports, List.mem_singleton]
    constructor
    · exact fun hr => .inr ⟨hkind, hr⟩
    · rintro (⟨_, ⟨_, _, -, hscalar, -⟩, -⟩ | ⟨-, rfl⟩)
      · rw [Field.columnType?_eq_enum_iff.mpr hkind] at hscalar
        cases hscalar
      · rfl

theorem Model.keyArguments_of_key {dialect : Dialect} {model : Model} {arguments : List Fragment}
    (h : model.keyArguments dialect = .ok arguments) {key : CompoundKey}
    (hkey : model.primaryKey = some key) (hfields : key.fields ≠ []) :
    arguments = [keyCallback dialect key] := by
  obtain rfl | ⟨other, hother, -, -, rfl⟩ := keyArguments_eq_ok h
  · simp [keyArguments, hkey, hfields, map_eq_ok] at h
  · rw [Option.some.inj (hother.symm.trans hkey)]

theorem Model.mem_imports_keyArguments {dialect : Dialect} {model : Model}
    {arguments : List Fragment} (h : model.keyArguments dialect = .ok arguments)
    {r : Requirement} :
    r ∈ arguments.flatMap Fragment.imports ↔
      model.HasKey ∧ r = dialect.coreImport "primaryKey" := by
  constructor
  · intro hr
    obtain rfl | ⟨key, hkey, hfields, -, rfl⟩ := keyArguments_eq_ok h
    · cases hr
    · rw [List.flatMap_singleton, imports_keyCallback] at hr
      exact ⟨⟨key, hkey, hfields⟩, List.mem_singleton.mp hr⟩
  · rintro ⟨⟨key, hkey, hfields⟩, rfl⟩
    rw [keyArguments_of_key h hkey hfields, List.flatMap_singleton, imports_keyCallback]
    exact List.mem_singleton_self _

theorem Model.mem_imports_columnEntries {dialect : Dialect} {mode : DateMode} {model : Model}
    {columns : List (String × Fragment)} (hbare : ∀ field ∈ model.columns, field.Bare)
    (h : model.columnEntries dialect mode model.columns = .ok columns) {r : Requirement} :
    r ∈ columns.flatMap (·.2.imports) ↔ ∃ field ∈ model.columns,
      (∃ function, field.Constructs dialect mode model function ∧
        r = dialect.coreImport function) ∨
      field.kind = .enum ∧
        r = .sibling (Naming.enumBinding field.type) (Naming.enumModule field.type) := by
  have hentries := columnEntries_eq_ok.mp h
  rw [List.mem_flatMap]
  constructor
  · rintro ⟨entry, hentry, hr⟩
    obtain ⟨field, hfield, column, hcolumn, rfl⟩ := exists_of_mem_right hentries hentry
    exact ⟨field, hfield, (Field.mem_imports_column (hbare field hfield) hcolumn).mp hr⟩
  · rintro ⟨field, hfield, hr⟩
    obtain ⟨entry, hentry, column, hcolumn, rfl⟩ := exists_of_mem_left hentries hfield
    exact ⟨_, hentry, (Field.mem_imports_column (hbare field hfield) hcolumn).mpr hr⟩

theorem Model.imports_tableFragment (dialect : Dialect) (model : Model)
    (columns : List (String × Fragment)) (key : List Fragment) :
    (tableFragment dialect model columns key).imports =
      dialect.coreImport dialect.tableFunction ::
        (columns.flatMap (·.2.imports) ++ key.flatMap Fragment.imports) := by
  simp [tableFragment]

theorem Model.mem_imports_declaration {dialect : Dialect} {mode : DateMode} {model : Model}
    {table : Fragment} (hbare : ∀ field ∈ model.columns, field.Bare)
    (h : model.declaration dialect mode = .ok table) {r : Requirement} :
    r ∈ table.imports ↔
      (∃ function, model.UsesCore dialect mode function ∧ r = dialect.coreImport function) ∨
      ∃ field ∈ model.columns, field.kind = .enum ∧
        r = .sibling (Naming.enumBinding field.type) (Naming.enumModule field.type) := by
  obtain ⟨columns, key, hcolumns, hkey, rfl⟩ := declaration_eq_ok.mp h
  rw [imports_tableFragment, List.mem_cons, List.mem_append, mem_imports_columnEntries hbare hcolumns,
    mem_imports_keyArguments hkey]
  constructor
  · rintro (rfl | ⟨field, hfield, ⟨function, hfunction, rfl⟩ | henum⟩ | ⟨hkey, rfl⟩)
    · exact .inl ⟨_, .inl rfl, rfl⟩
    · exact .inl ⟨function, .inr (.inl ⟨field, hfield, hfunction⟩), rfl⟩
    · exact .inr ⟨field, hfield, henum⟩
    · exact .inl ⟨_, .inr (.inr ⟨rfl, hkey⟩), rfl⟩
  · rintro (⟨function, rfl | ⟨field, hfield, hfunction⟩ | ⟨rfl, hkey⟩, rfl⟩ | ⟨field, hfield, henum⟩)
    · exact .inl rfl
    · exact .inr (.inl ⟨field, hfield, .inl ⟨function, hfunction, rfl⟩⟩)
    · exact .inr (.inr ⟨hkey, rfl⟩)
    · exact .inr (.inl ⟨field, hfield, .inr henum⟩)

theorem Model.bare_columns {model : Model} (h : ∀ field ∈ model.fields, field.Bare) :
    ∀ field ∈ model.columns, field.Bare :=
  fun field hfield => h field (List.mem_filter.mp hfield).1

theorem Model.isNamed_of_mem_declaration {dialect : Dialect} {mode : DateMode} {model : Model}
    {table : Fragment} (h : model.declaration dialect mode = .ok table) :
    ∀ r ∈ table.imports, r.isNamed = true := by
  obtain ⟨columns, key, hcolumns, hkey, rfl⟩ := declaration_eq_ok.mp h
  intro r hr
  rw [imports_tableFragment, List.mem_cons, List.mem_append, mem_imports_keyArguments hkey] at hr
  rcases hr with rfl | hr | ⟨-, rfl⟩
  · rfl
  · obtain ⟨entry, hentry, hr⟩ := List.mem_flatMap.mp hr
    obtain ⟨field, -, column, hcolumn, rfl⟩ :=
      exists_of_mem_right (columnEntries_eq_ok.mp hcolumns) hentry
    exact Field.isNamed_of_mem_column hcolumn hr
  · rfl

theorem Model.enum_mem_imports {dialect : Dialect} {mode : DateMode} {model : Model}
    {table : Fragment} (h : model.declaration dialect mode = .ok table) {field : Field}
    (hfield : field ∈ model.fields) (hkind : field.kind = .enum) :
    .sibling (Naming.enumBinding field.type) (Naming.enumModule field.type) ∈ table.imports := by
  obtain ⟨columns, key, hcolumns, hkey, rfl⟩ := declaration_eq_ok.mp h
  have hcolumn : field ∈ model.columns := by
    simp [Model.columns, hfield, Field.isRelation, hkind]
  obtain ⟨entry, hentry, column, hcolumn, rfl⟩ :=
    exists_of_mem_left (columnEntries_eq_ok.mp hcolumns) hcolumn
  have hmem : .sibling (Naming.enumBinding field.type) (Naming.enumModule field.type) ∈
      columns.flatMap (·.2.imports) :=
    List.mem_flatMap.mpr ⟨_, hentry, Field.enum_mem_column_imports hcolumn hkind⟩
  simp [tableFragment, hmem]

def Dialect.enumFunction? : Dialect → Option String
  | .postgres => some "pgEnum"
  | .mysql => some "mysqlEnum"
  | .sqlite => none

theorem Dialect.last?_enumFunction {dialect : Dialect} {name : String}
    (h : dialect.enumFunction? = some name) : Naming.last? name = some 'm' := by
  cases dialect with
  | postgres => exact Option.some.inj h ▸ by decide
  | mysql => exact Option.some.inj h ▸ by decide
  | sqlite => cases h

theorem EnumType.imports_declaration? {dialect : Dialect} {enum : EnumType} {fragment : Fragment}
    (h : enum.declaration? dialect = some fragment) :
    ∃ name, dialect.enumFunction? = some name ∧ fragment.imports = [dialect.coreImport name] := by
  obtain ⟨value, hvalue, rfl⟩ := Option.map_eq_some_iff.mp h
  cases dialect with
  | postgres =>
    obtain rfl := Option.some.inj hvalue
    exact ⟨_, rfl, by simp [valueLiterals, List.flatMap_map]⟩
  | mysql =>
    obtain rfl := Option.some.inj hvalue
    exact ⟨_, rfl, by simp [valueLiterals, List.flatMap_map]⟩
  | sqlite => simp [Dialect.enumValue?] at hvalue

namespace Schema

def mentioned (schema : Schema) (model : Model) : List Model :=
  model :: model.relationFields.filterMap fun field =>
    (field.resolve schema.allModels model).toOption

theorem mem_mentioned {schema : Schema} {model other : Model} :
    other ∈ schema.mentioned model ↔ other = model ∨ ∃ field ∈ model.relationFields,
      field.resolve schema.allModels model = .ok other := by
  simp [mentioned, toOption_eq_some]

theorem mem_imports_relations {schema : Schema} {model : Model} {one : Declared}
    (h : schema.declareRelations? model = .ok (some one)) {r : Requirement} :
    r ∈ one.declaration.imports ↔ r = .named ["relations"] "drizzle-orm" ∨
      ∃ other ∈ schema.mentioned model,
        r = .sibling (Naming.tableBinding other.name) (Naming.tableModule other.name) := by
  obtain ⟨-, fragment, hfragment, rfl⟩ := declareRelations?_eq_some.mp h
  obtain ⟨entries, hentries, -, rfl⟩ := relations?_eq_some.mp hfragment
  have hentries := relationEntries_eq_ok.mp hentries
  simp only [relationsFragment, Fragment.imports_declaration, Fragment.imports_invoke_withImports,
    List.flatMap_cons, Fragment.imports_verbatim, Fragment.imports_lambda, Fragment.imports_record,
    List.flatMap_nil, List.nil_append, List.append_nil, List.cons_append, List.mem_cons]
  refine or_congr_right ?_
  constructor
  · rintro (rfl | hr)
    · exact ⟨model, mem_mentioned.mpr (.inl rfl), rfl⟩
    · obtain ⟨entry, hentry, hr⟩ := List.mem_flatMap.mp hr
      obtain ⟨field, hfield, other, hother, rfl⟩ := exists_of_mem_right hentries hentry
      rw [imports_relationEntry, List.mem_singleton] at hr
      exact ⟨other, mem_mentioned.mpr (.inr ⟨field, hfield, hother⟩), hr⟩
  · rintro ⟨other, hother, rfl⟩
    rcases mem_mentioned.mp hother with rfl | ⟨field, hfield, hresolve⟩
    · exact .inl rfl
    · obtain ⟨entry, hentry, other', hother', rfl⟩ := exists_of_mem_left hentries hfield
      obtain rfl := Except.ok.inj (hresolve.symm.trans hother')
      exact .inr (List.mem_flatMap.mpr ⟨_, hentry, by simp [imports_relationEntry]⟩)

end Schema

end SchemaWriter
