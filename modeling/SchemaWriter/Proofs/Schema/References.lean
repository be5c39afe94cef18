import SchemaWriter.Proofs.Fragment.Shape
import SchemaWriter.Proofs.Schema.Written

namespace SchemaWriter

open Outcome

namespace Fragment

def table? (dialect : Dialect) (declaration : Fragment) : Option (List String × List Fragment) :=
  match declaration.value?.bind call? with
  | some (callee, .string _ :: columns :: key) =>
    if callee = dialect.tableFunction then some (columns.properties.map Prod.fst, key) else none
  | _ => none

def relations? (declaration : Fragment) : Option (String × List (String × Fragment)) :=
  match declaration.value?.bind call? with
  | some (callee, [.verbatim table, .lambda _ entries]) =>
    if callee = "relations" then some (table, entries.properties) else none
  | _ => none

end Fragment

namespace Model

theorem mem_columns_of_hasColumn {model : Model} {name : String}
    (h : model.hasColumn name = true) : name ∈ model.columns.map Field.name := by
  unfold hasColumn at h
  cases hfield : model.field? name with
  | none => simp [hfield] at h
  | some field =>
    have hname := List.find?_some hfield
    have hmem := List.mem_of_find?_eq_some hfield
    rw [hfield] at h
    exact List.mem_map.mpr ⟨field, List.mem_filter.mpr ⟨hmem, h⟩, by simpa using hname⟩

theorem keys_columnEntries {dialect : Dialect} {mode : DateMode} {model : Model}
    {fields : List Field} {entries : List (String × Fragment)}
    (h : model.columnEntries dialect mode fields = .ok entries) :
    entries.map Prod.fst = fields.map Field.name := by
  have hentries := columnEntries_eq_ok.mp h
  clear h
  induction hentries with
  | nil => rfl
  | cons hentry _ ih =>
    obtain ⟨column, -, rfl⟩ := hentry
    simp [ih]

theorem table?_tableFragment (dialect : Dialect) (model : Model)
    (columns : List (String × Fragment)) (key : List Fragment) :
    (tableFragment dialect model columns key).table? dialect =
      some (columns.map Prod.fst, key) := by
  simp [tableFragment, Fragment.table?]

theorem relations?_tableFragment (dialect : Dialect) (model : Model)
    (columns : List (String × Fragment)) (key : List Fragment) :
    (tableFragment dialect model columns key).relations? = none := by
  simp [tableFragment, Fragment.relations?]

theorem verbatims_keyCallback (dialect : Dialect) (key : CompoundKey) :
    (keyCallback dialect key).verbatims = key.fields.map ("table." ++ ·) := by
  cases hname : key.name <;>
    simp [keyCallback, keyOptions, hname, List.flatMap_map, ← List.map_eq_flatMap]

theorem declaration_key {dialect : Dialect} {mode : DateMode} {model : Model} {table : Fragment}
    (h : model.declaration dialect mode = .ok table) {columns : List String}
    {key : List Fragment} (htable : table.table? dialect = some (columns, key))
    {callback : Fragment} (hcallback : callback ∈ key) {source : String}
    (hsource : source ∈ callback.verbatims) : ∃ column ∈ columns, source = "table." ++ column := by
  obtain ⟨entries, arguments, hentries, hkey, rfl⟩ := declaration_eq_ok.mp h
  rw [table?_tableFragment] at htable
  obtain ⟨rfl, rfl⟩ := Prod.mk.inj (Option.some.inj htable)
  obtain rfl | ⟨compound, -, -, hcolumns, rfl⟩ := keyArguments_eq_ok hkey
  · simp at hcallback
  · obtain rfl := List.mem_singleton.mp hcallback
    rw [verbatims_keyCallback] at hsource
    obtain ⟨column, hcolumn, rfl⟩ := List.mem_map.mp hsource
    refine ⟨column, ?_, rfl⟩
    rw [keys_columnEntries hentries]
    exact mem_columns_of_hasColumn (hcolumns column hcolumn)

end Model

namespace EnumType

theorem shape_of_declaration? {dialect : Dialect} {enum : EnumType} {fragment : Fragment}
    (h : enum.declaration? dialect = some fragment) :
    fragment.table? dialect = none ∧ fragment.relations? = none := by
  obtain ⟨value, hvalue, rfl⟩ := Option.map_eq_some_iff.mp h
  cases dialect with
  | postgres =>
    obtain rfl := Option.some.inj hvalue
    simp [Fragment.table?, Fragment.relations?, Dialect.tableFunction, valueLiterals]
  | mysql =>
    obtain rfl := Option.some.inj hvalue
    exact ⟨rfl, rfl⟩
  | sqlite => simp [Dialect.enumValue?] at hvalue

end EnumType

namespace Schema

def DeclaresColumn (schema : Schema) (declared : List Fragment) (model : Model)
    (column : String) : Prop :=
  ∃ table ∈ declared,
    model.declaration schema.config.dialect schema.config.dateMode = .ok table ∧
    table.name? = some (Naming.tableBinding model.name) ∧
    ∃ columns key, table.table? schema.config.dialect = some (columns, key) ∧ column ∈ columns

structure JoinsColumns (schema : Schema) (declared : List Fragment) (model related : Model)
    (field : Field) (entry : Fragment) : Prop where
  related_found : schema.findModel? field.type = some related
  fields : entry.options.lookup "fields" = some (.array (field.relationFromFields.map fun column =>
    .verbatim (Naming.tableBinding model.name ++ "." ++ column)))
  references : entry.options.lookup "references" =
    some (.array (field.relationToFields.map fun column =>
      .verbatim (Naming.tableBinding related.name ++ "." ++ column)))
  nonempty : field.relationFromFields ≠ []
  same_length : field.relationFromFields.length = field.relationToFields.length
  own_columns : ∀ column ∈ field.relationFromFields, schema.DeclaresColumn declared model column
  related_columns : ∀ column ∈ field.relationToFields,
    schema.DeclaresColumn declared related column

def EntryFor (schema : Schema) (declared : List Fragment) (model : Model) (field : Field)
    (entry : String × Fragment) : Prop :=
  entry.1 = field.name ∧
    if field.relation.isHolder then
      ∃ related, schema.JoinsColumns declared model related field entry.2
    else
      entry.2.options.lookup "fields" = none ∧ entry.2.options.lookup "references" = none

theorem relations?_relationsFragment (model : Model) (entries : List (String × Fragment)) :
    (relationsFragment model entries).relations? =
      some (Naming.tableBinding model.name, entries) := by
  simp [relationsFragment, Fragment.relations?]

theorem table?_relationsFragment (dialect : Dialect) (model : Model)
    (entries : List (String × Fragment)) :
    (relationsFragment model entries).table? dialect = none := by
  simp [relationsFragment, Fragment.table?]

theorem lookup_nameOption {schema : Schema} {model : Model} {field : Field} {key : String}
    (hkey : key ≠ "relationName") (rest : List (String × Fragment)) :
    (schema.nameOption model field ++ rest).lookup key = rest.lookup key := by
  unfold nameOption
  split
  · have hother : (key == "relationName") = false := beq_eq_false_iff_ne.mpr hkey
    simp [List.lookup_cons, hother]
  · rfl

theorem options_relationEntry_holder {schema : Schema} {model related : Model} {field : Field}
    (h : field.relation.isHolder = true) :
    (schema.relationEntry model related field).options = schema.nameOption model field ++ [
      ("fields", columnReferences (Naming.tableBinding model.name) field.relationFromFields),
      ("references",
        columnReferences (Naming.tableBinding related.name) field.relationToFields)] := by
  simp [relationEntry, h, Fragment.options]

theorem options_relationEntry_open {schema : Schema} {model related : Model} {field : Field}
    (h : field.relation.isHolder = false) :
    (schema.relationEntry model related field).options = schema.nameOption model field := by
  cases hname : schema.nameOption model field <;>
    simp [relationEntry, h, hname, Fragment.options]

theorem declaresColumn {schema : Schema} {d : Declarations} {declared : List Fragment}
    (hd : schema.declarations = .ok d) (hdeclared : ∀ one ∈ d.modular, one.declaration ∈ declared)
    {model : Model} (hmodel : model ∈ schema.allModels) {name : String}
    (hcolumn : model.hasColumn name = true) : schema.DeclaresColumn declared model name := by
  obtain ⟨one, hone, hdeclare⟩ := exists_table hd hmodel
  obtain ⟨table, htable, rfl⟩ := declareTable_eq_ok.mp hdeclare
  obtain ⟨columns, key, hcolumns, -, rfl⟩ := Model.declaration_eq_ok.mp htable
  refine ⟨_, hdeclared _ hone, htable, rfl, _, key, Model.table?_tableFragment _ _ _ _, ?_⟩
  rw [Model.keys_columnEntries hcolumns]
  exact Model.mem_columns_of_hasColumn hcolumn

theorem entryFor {schema : Schema} {d : Declarations} {declared : List Fragment}
    (hd : schema.declarations = .ok d) (hdeclared : ∀ one ∈ d.modular, one.declaration ∈ declared)
    {model related : Model} (hmodel : model ∈ schema.allModels) {field : Field}
    (hresolve : field.resolve schema.allModels model = .ok related) :
    schema.EntryFor declared model field
      (field.name, schema.relationEntry model related field) := by
  obtain ⟨hfound, hholder, -⟩ := Field.resolve_eq_ok.mp hresolve
  refine ⟨rfl, ?_⟩
  split
  · rename_i h
    obtain ⟨hlength, hfrom, hto⟩ := hholder h
    refine ⟨related, hfound, ?_, ?_, ?_, hlength, fun column hcolumn => ?_,
      fun column hcolumn => ?_⟩
    · rw [options_relationEntry_holder h, lookup_nameOption (by decide)]
      rfl
    · rw [options_relationEntry_holder h, lookup_nameOption (by decide)]
      rfl
    · simp only [Relation.isHolder, Field.relation_fromFields, Bool.and_eq_true,
        Bool.not_eq_true', List.isEmpty_eq_false_iff] at h
      exact h.1
    · exact declaresColumn hd hdeclared hmodel (hfrom column hcolumn)
    · exact declaresColumn hd hdeclared (findModel?_eq_some hfound).1 (hto column hcolumn)
  · rename_i h
    rw [options_relationEntry_open (Bool.not_eq_true _ ▸ h),
      ← List.append_nil (schema.nameOption model field)]
    exact ⟨lookup_nameOption (by decide) [], lookup_nameOption (by decide) []⟩

theorem exists_model_of_relations? {schema : Schema} {one : Declared} (h : schema.Origin one)
    {table : String} {entries : List (String × Fragment)}
    (hrelations : one.declaration.relations? = some (table, entries)) :
    ∃ model ∈ schema.allModels,
      schema.relationEntries model model.relationFields = .ok entries ∧
      one.declaration.name? = some (Naming.relationsBinding model.name) ∧
      table = Naming.tableBinding model.name := by
  cases h with
  | table model hmodel hdeclare =>
    obtain ⟨fragment, hfragment, rfl⟩ := declareTable_eq_ok.mp hdeclare
    obtain ⟨columns, key, -, -, rfl⟩ := Model.declaration_eq_ok.mp hfragment
    rw [Model.relations?_tableFragment] at hrelations
    cases hrelations
  | enum hdeclare =>
    obtain ⟨enum, -, fragment, hfragment, rfl⟩ := mem_declareEnums.mp hdeclare
    rw [(EnumType.shape_of_declaration? hfragment).2] at hrelations
    cases hrelations
  | relations model hmodel hdeclare =>
    obtain ⟨-, fragment, hfragment, rfl⟩ := declareRelations?_eq_some.mp hdeclare
    obtain ⟨written, hwritten, -, rfl⟩ := relations?_eq_some.mp hfragment
    rw [relations?_relationsFragment] at hrelations
    obtain ⟨rfl, rfl⟩ := Prod.mk.inj (Option.some.inj hrelations)
    exact ⟨model, hmodel, hwritten, rfl, rfl⟩

theorem exists_model_of_table? {schema : Schema} {one : Declared} (h : schema.Origin one)
    {columns : List String} {key : List Fragment}
    (htable : one.declaration.table? schema.config.dialect = some (columns, key)) :
    ∃ model ∈ schema.allModels,
      model.declaration schema.config.dialect schema.config.dateMode = .ok one.declaration := by
  cases h with
  | table model hmodel hdeclare =>
    obtain ⟨fragment, hfragment, rfl⟩ := declareTable_eq_ok.mp hdeclare
    exact ⟨model, hmodel, hfragment⟩
  | enum hdeclare =>
    obtain ⟨enum, -, fragment, hfragment, rfl⟩ := mem_declareEnums.mp hdeclare
    rw [(EnumType.shape_of_declaration? hfragment).1] at htable
    cases htable
  | relations model hmodel hdeclare =>
    obtain ⟨-, fragment, hfragment, rfl⟩ := declareRelations?_eq_some.mp hdeclare
    obtain ⟨entries, -, -, rfl⟩ := relations?_eq_some.mp hfragment
    rw [table?_relationsFragment] at htable
    cases htable

structure ReferencesColumns (schema : Schema) (declared : List Fragment) : Prop where
  written : schema.config.relationalQuery = true → ∀ model ∈ schema.allModels,
    model.relationFields ≠ [] → ∃ one ∈ declared, ∃ entries,
      one.name? = some (Naming.relationsBinding model.name) ∧
      one.relations? = some (Naming.tableBinding model.name, entries)
  relations : ∀ one ∈ declared, ∀ table entries, one.relations? = some (table, entries) →
    ∃ model ∈ schema.allModels, one.name? = some (Naming.relationsBinding model.name) ∧
      table = Naming.tableBinding model.name ∧
      List.Forall₂ (schema.EntryFor declared model) model.relationFields entries
  keys : ∀ one ∈ declared, ∀ columns key,
    one.table? schema.config.dialect = some (columns, key) → ∀ callback ∈ key,
      ∀ source ∈ callback.verbatims, ∃ column ∈ columns, source = "table." ++ column

end Schema

namespace Declarations

theorem declaration_mem {config : Config} {d : Declarations} {one : Declared}
    (h : one ∈ d.modular) :
    one.declaration ∈ (d.modules config).flatMap Module.declarations := by
  unfold modules
  cases hmode : config.outputMode with
  | directory =>
    refine List.mem_flatMap.mpr ⟨Module.assemble config.resolution one.module [one.declaration],
      List.mem_append_left _ (List.mem_map.mpr ⟨one, h, rfl⟩), List.mem_singleton_self _⟩
  | singleFile stem =>
    refine List.mem_flatMap.mpr ⟨_, List.mem_singleton_self _, List.mem_append_left _ ?_⟩
    exact List.mem_map.mpr ⟨one, Schema.mem_sequential.mpr h, rfl⟩

theorem forall_declarations_iff {config : Config} {d : Declarations} {P : Fragment → Prop}
    (hfile : ∀ names : List String, P (Module.schemaDeclaration (names.map .shorthand)))
    (hroot : ∀ modules : List Module, P (Module.schemaDeclaration (modules.map fun m =>
      .spread (.verbatim (Naming.moduleAlias m.name))))) :
    (∀ fragment ∈ (d.modules config).flatMap Module.declarations, P fragment) ↔
      ∀ one ∈ d.modular, P one.declaration := by
  constructor
  · exact fun h one hone => h _ (declaration_mem hone)
  · intro h fragment hfragment
    unfold modules at hfragment
    cases hmode : config.outputMode with
    | directory =>
      simp only [hmode, directory, Module.assemble, Module.schemaRoot, List.mem_flatMap,
        List.mem_append, List.mem_map, List.mem_singleton] at hfragment
      rcases hfragment with ⟨_, ⟨one, hone, rfl⟩ | rfl, hfragment⟩
      · rw [List.mem_singleton.mp hfragment]
        exact h one hone
      · rw [List.mem_singleton.mp hfragment]
        exact hroot _
    | singleFile stem =>
      simp only [hmode, singleFile, Module.assembleSingle, List.flatMap_singleton, List.mem_append,
        List.mem_map, List.mem_singleton] at hfragment
      rcases hfragment with ⟨one, hone, rfl⟩ | rfl
      · exact h one (Schema.mem_sequential.mp hone)
      · exact hfile _

theorem mem_declarations {config : Config} {d : Declarations} {fragment : Fragment}
    (h : fragment ∈ (d.modules config).flatMap Module.declarations) :
    (∃ one ∈ d.modular, one.declaration = fragment) ∨
      ∃ entries, fragment = Module.schemaDeclaration entries := by
  refine (forall_declarations_iff (P := fun fragment => (∃ one ∈ d.modular,
    one.declaration = fragment) ∨ ∃ entries, fragment = Module.schemaDeclaration entries)
    ?_ ?_).mpr ?_ fragment h
  · exact fun names => .inr ⟨_, rfl⟩
  · exact fun modules => .inr ⟨_, rfl⟩
  · exact fun one hone => .inl ⟨one, hone, rfl⟩

end Declarations

theorem modules_referencesColumns {config : Config} {datamodel : Datamodel}
    {modules : List Module} (h : datamodel.modules config = .ok modules) :
    ∃ schema, Schema.ofDatamodel config datamodel = .ok schema ∧
      schema.ReferencesColumns (modules.flatMap Module.declarations) := by
  obtain ⟨schema, d, hschema, hd, rfl⟩ := Datamodel.modules_eq_ok.mp h
  refine ⟨schema, hschema, ⟨fun hquery model hmodel hfields => ?_,
    fun fragment hfragment table entries hrelations => ?_,
    fun fragment hfragment columns key htable callback hcallback source hsource => ?_⟩⟩
  · obtain ⟨one, hone, hdeclare⟩ := Schema.exists_relations hd hquery hmodel hfields
    obtain ⟨-, fragment, hfragment, rfl⟩ := Schema.declareRelations?_eq_some.mp hdeclare
    obtain ⟨entries, -, -, rfl⟩ := Schema.relations?_eq_some.mp hfragment
    exact ⟨_, Declarations.declaration_mem hone, entries, rfl,
      Schema.relations?_relationsFragment model entries⟩
  · rcases Declarations.mem_declarations hfragment with ⟨one, hone, rfl⟩ | ⟨_, rfl⟩
    · obtain ⟨model, hmodel, hentries, hname, rfl⟩ :=
        Schema.exists_model_of_relations? (Schema.origin_of_mem hd hone) hrelations
      refine ⟨model, hmodel, hname, rfl, (Schema.relationEntries_eq_ok.mp hentries).imp ?_⟩
      rintro field _ ⟨related, hresolve, rfl⟩
      exact Schema.entryFor hd (fun one hone => Declarations.declaration_mem hone) hmodel hresolve
    · cases hrelations
  · rcases Declarations.mem_declarations hfragment with ⟨one, hone, rfl⟩ | ⟨_, rfl⟩
    · obtain ⟨model, -, hdeclaration⟩ :=
        Schema.exists_model_of_table? (Schema.origin_of_mem hd hone) htable
      exact Model.declaration_key hdeclaration htable hcallback hsource
    · cases htable

def bookLoans : Datamodel where
  models := [
    { name := "Book", fields := [
      { name := "id", type := "Int", isId := true },
      { name := "tags", kind := .object, type := "Tag", isList := true,
        relationName := some "BookToTag" },
      { name := "loans", kind := .object, type := "Loan", isList := true,
        relationName := some "BookToLoan" }] },
    { name := "Tag", fields := [
      { name := "id", type := "Int", isId := true },
      { name := "books", kind := .object, type := "Book", isList := true,
        relationName := some "BookToTag" }] },
    { name := "Loan"
      fields := [
        { name := "bookId", type := "Int" },
        { name := "reader", type := "String" },
        { name := "book", kind := .object, type := "Book", relationName := some "BookToLoan",
          relationFromFields := ["bookId"], relationToFields := ["id"] }]
      primaryKey := some { fields := ["bookId", "reader"] } }]

theorem bookLoans_referencesColumns :
    ∃ modules, bookLoans.modules (Config.ofDialect .sqlite) = .ok modules ∧
      ∃ schema, Schema.ofDatamodel (Config.ofDialect .sqlite) bookLoans = .ok schema ∧
        schema.ReferencesColumns (modules.flatMap Module.declarations) := by
  have hwritten : (bookLoans.modules (Config.ofDialect .sqlite)).isOk = true := by decide
  obtain ⟨modules, h⟩ := exists_of_isOk hwritten
  exact ⟨modules, h, modules_referencesColumns h⟩

end SchemaWriter
