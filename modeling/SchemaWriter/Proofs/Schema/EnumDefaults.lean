import SchemaWriter.Proofs.Schema.References

namespace SchemaWriter

open Outcome

namespace Fragment

def columns? (dialect : Dialect) (declaration : Fragment) : Option (List (String × Fragment)) :=
  match declaration.value?.bind call? with
  | some (callee, .string _ :: columns :: _) =>
    if callee = dialect.tableFunction then some columns.properties else none
  | _ => none

def defaultStrings (column : Fragment) : List String :=
  column.links.flatMap fun link =>
    match link.call? with
    | some (callee, arguments) => if callee = "default" then stringsOfAll arguments else []
    | none => []

def returned : Fragment → Fragment
  | .lambda _ body => body
  | fragment => fragment

def enumStrings (declaration : Fragment) : List String :=
  match (declaration.value?.map returned).bind call? with
  | some (_, [_, values]) => values.strings
  | _ => []

end Fragment

namespace Modifier

def defaultStrings : Modifier → List String
  | .literal value => value.strings
  | _ => []

theorem defaultStrings_fragment? {dialect : Dialect} {modifier : Modifier} {link : Fragment}
    (h : modifier.fragment? dialect = some link) :
    (match link.call? with
      | some (callee, arguments) =>
        if callee = "default" then Fragment.stringsOfAll arguments else []
      | none => []) = modifier.defaultStrings := by
  cases modifier with
  | literal value =>
    obtain rfl := Option.some.inj h
    simp [defaultStrings, Fragment.stringsOfAll]
  | primaryKey numbered =>
    obtain rfl := Option.some.inj h
    cases dialect <;> cases numbered <;> rfl
  | now mode =>
    obtain rfl := Option.some.inj h
    cases dialect <;> rfl
  | autoincrement =>
    obtain ⟨name, hname, rfl⟩ := Option.map_eq_some_iff.mp h
    cases dialect <;> cases hname <;> rfl
  | array | narrow | notNull | unique | expression | onUpdate =>
    obtain rfl := Option.some.inj h
    rfl

theorem defaultStrings_eq_nil {dialect : Dialect} {modifier : Modifier}
    (h : modifier.fragment? dialect = none) : modifier.defaultStrings = [] := by
  cases modifier with
  | autoincrement => rfl
  | _ => simp [Modifier.fragment?] at h

theorem Plain.defaultStrings {modifiers : List Modifier} (h : Plain modifiers) :
    modifiers.flatMap Modifier.defaultStrings = [] := by
  rw [List.flatMap_eq_nil_iff]
  intro modifier hmodifier
  have hplain := h modifier hmodifier
  cases modifier <;> first | rfl | cases hplain

end Modifier

theorem Column.defaultStrings_fragment (dialect : Dialect) {column : Column}
    (hbase : column.base.call?.isSome = true) :
    (column.fragment dialect).defaultStrings =
      column.modifiers.flatMap Modifier.defaultStrings := by
  rw [Column.fragment, Column.link, Fragment.defaultStrings, Fragment.links_foldl_andThen hbase]
  induction column.modifiers with
  | nil => rfl
  | cons modifier modifiers ih =>
    cases hlink : modifier.fragment? dialect with
    | none =>
      rw [List.filterMap_cons_none hlink, List.flatMap_cons, ih,
        Modifier.defaultStrings_eq_nil hlink, List.nil_append]
    | some link =>
      rw [List.filterMap_cons_some hlink, List.flatMap_cons, List.flatMap_cons, ih,
        Modifier.defaultStrings_fragment? hlink]

namespace Field

def DefaultsTo (field : Field) (names : List String) : Prop :=
  (∃ name, field.defaultValue = some (.literal (.string name)) ∧ names = [name]) ∨
    field.defaultValue = some (.literal (.array (names.map .string)))

theorem literal_string {model : Model} {field : Field} (hkind : field.kind = .enum)
    (mode : DateMode) (name : String) :
    literal model field mode (.string name) = .ok (.string name) := by
  rw [literal, columnType?_eq_enum_iff.mpr hkind]
  · rfl
  · exact nofun

theorem literals_map_string {model : Model} {field : Field} (hkind : field.kind = .enum)
    (mode : DateMode) (names : List String) :
    literals model field mode (names.map .string) = .ok (names.map .string) := by
  induction names with
  | nil => rfl
  | cons name names ih =>
    rw [List.map_cons, literals, literal_string hkind, ih]
    rfl

theorem defaultStrings_defaultModifiers {model : Model} {field : Field} {directives : Directives}
    {mode : DateMode} {modifiers : List Modifier} {names : List String}
    (hkind : field.kind = .enum) (hnone : directives.defaultExpression? = none)
    (hdefault : field.DefaultsTo names)
    (h : field.defaultModifiers model directives mode = .ok modifiers) :
    modifiers.flatMap Modifier.defaultStrings = names := by
  rw [defaultModifiers, hnone] at h
  rcases hdefault with ⟨name, hvalue, rfl⟩ | hvalue
  · simp only [hvalue, Json.Ordered.json_string, literal_string hkind] at h
    obtain rfl := Except.ok.inj h
    simp [Modifier.defaultStrings, Fragment.strings]
  · simp only [hvalue, Json.Ordered.json_array, Json.Ordered.map_json_map_string, literal,
      literals_map_string hkind] at h
    obtain rfl := Except.ok.inj h
    simp [Modifier.defaultStrings, Fragment.strings_array_map_string]

theorem call?_constructorCall {dialect : Dialect} {model : Model} {mode : DateMode} {field : Field}
    {call : Fragment} (h : field.constructorCall dialect model mode = .ok call) :
    call.call?.isSome = true := by
  unfold constructorCall at h
  split at h
  · obtain rfl := Except.ok.inj h
    simp [Dialect.construct, Constructor.call]
  · split at h
    · obtain rfl := Except.ok.inj h
      simp
    · simp at h
  · simp at h
  · simp at h

theorem typeModifiers_defaultStrings (directives : Directives) :
    (typeModifiers directives).flatMap Modifier.defaultStrings = [] := by
  unfold typeModifiers
  split <;> rfl

theorem defaultStrings_column {dialect : Dialect} {mode : DateMode} {model : Model} {field : Field}
    {column : Column} {names : List String} (hkind : field.kind = .enum)
    (hnone : ∀ directives, field.directives model = .ok directives →
      directives.defaultExpression? = none)
    (hdefault : field.DefaultsTo names) (h : field.column dialect mode model = .ok column) :
    (column.fragment dialect).defaultStrings = names := by
  obtain ⟨directives, call, list, default, hdirectives, hcall, hlist, hmodifiers, rfl⟩ :=
    column_eq_ok.mp h
  have hnames := defaultStrings_defaultModifiers hkind (hnone _ hdirectives) hdefault hmodifiers
  rw [Column.defaultStrings_fragment dialect (call?_constructorCall hcall)]
  simp only [List.flatMap_append, (listModifiers_plain hlist).defaultStrings,
    field.keyModifiers_plain.defaultStrings, field.uniqueModifiers_plain.defaultStrings,
    (field.updateModifiers_plain _).defaultStrings, typeModifiers_defaultStrings, hnames,
    List.nil_append, List.append_nil]

end Field

theorem EnumType.enumStrings_declaration? {dialect : Dialect} {enum : EnumType}
    {declaration : Fragment} (h : enum.declaration? dialect = some declaration) :
    declaration.enumStrings = enum.values.map EnumValue.stored := by
  have hvalues : enum.valueLiterals.strings = enum.values.map EnumValue.stored := by
    have hmap := Fragment.strings_array_map_string (enum.values.map EnumValue.stored)
    rwa [List.map_map] at hmap
  obtain ⟨value, hvalue, rfl⟩ := Option.map_eq_some_iff.mp h
  cases dialect with
  | postgres =>
    obtain rfl := Option.some.inj hvalue
    exact hvalues
  | mysql =>
    obtain rfl := Option.some.inj hvalue
    exact hvalues
  | sqlite => simp [Dialect.enumValue?] at hvalue

theorem Model.columns?_tableFragment (dialect : Dialect) (model : Model)
    (columns : List (String × Fragment)) (key : List Fragment) :
    (tableFragment dialect model columns key).columns? dialect = some columns := by
  simp [tableFragment, Fragment.columns?]

namespace Schema

def Writes (schema : Schema) (declared : List Fragment) (model : Model) (field : Field)
    (column : Fragment) : Prop :=
  ∃ table ∈ declared,
    model.declaration schema.config.dialect schema.config.dateMode = .ok table ∧
    ∃ columns, table.columns? schema.config.dialect = some columns ∧
      (field, field.name, column) ∈ model.columns.zip columns

structure EnumDefault (schema : Schema) (model : Model) (field : Field) (enum : EnumType)
    (names : List String) : Prop where
  model_mem : model ∈ schema.allModels
  field_mem : field ∈ model.columns
  kind : field.kind = .enum
  enum_mem : enum ∈ schema.enums
  enum_name : enum.name = field.type
  undirected : ∀ directives, field.directives model = .ok directives →
    directives.defaultExpression? = none
  default : field.DefaultsTo names
  named : ∀ name ∈ names, ∃ value ∈ enum.values, value.name = name

def DefaultsDeclared (schema : Schema) (declared : List Fragment) : Prop :=
  ∀ model field enum names, schema.EnumDefault model field enum names →
    ∀ column, schema.Writes declared model field column →
      ∀ declaration ∈ declared, enum.declaration? schema.config.dialect = some declaration →
        ∀ value ∈ column.defaultStrings, value ∈ declaration.enumStrings

theorem Writes.exists_column {schema : Schema} {declared : List Fragment} {model : Model}
    {field : Field} {fragment : Fragment} (h : schema.Writes declared model field fragment) :
    ∃ column, field.column schema.config.dialect schema.config.dateMode model = .ok column ∧
      column.fragment schema.config.dialect = fragment := by
  obtain ⟨table, -, htable, columns, hcolumns, hzip⟩ := h
  obtain ⟨entries, key, hentries, -, rfl⟩ := Model.declaration_eq_ok.mp htable
  rw [Model.columns?_tableFragment] at hcolumns
  obtain rfl := Option.some.inj hcolumns
  obtain ⟨column, hcolumn, hentry⟩ :=
    (List.forall₂_iff_zip.mp (Model.columnEntries_eq_ok.mp hentries)).2 hzip
  exact ⟨column, hcolumn, (Prod.mk.inj hentry).2⟩

theorem defaultStrings_of_writes {schema : Schema} {declared : List Fragment} {model : Model}
    {field : Field} {enum : EnumType} {names : List String} {column : Fragment}
    (h : schema.EnumDefault model field enum names)
    (hcolumn : schema.Writes declared model field column) : column.defaultStrings = names := by
  obtain ⟨written, hwritten, rfl⟩ := hcolumn.exists_column
  exact Field.defaultStrings_column h.kind h.undirected h.default hwritten

theorem exists_writes {schema : Schema} {d : Declarations} {declared : List Fragment}
    (hd : schema.declarations = .ok d) (hdeclared : ∀ one ∈ d.modular, one.declaration ∈ declared)
    {model : Model} (hmodel : model ∈ schema.allModels) {field : Field}
    (hfield : field ∈ model.columns) : ∃ column, schema.Writes declared model field column := by
  obtain ⟨one, hone, hdeclare⟩ := exists_table hd hmodel
  obtain ⟨table, htable, rfl⟩ := declareTable_eq_ok.mp hdeclare
  obtain ⟨entries, key, hentries, -, rfl⟩ := Model.declaration_eq_ok.mp htable
  have hforall := Model.columnEntries_eq_ok.mp hentries
  obtain ⟨entry, hzip⟩ := exists_zip_of_mem_left hforall hfield
  obtain ⟨column, -, rfl⟩ := (List.forall₂_iff_zip.mp hforall).2 hzip
  exact ⟨_, _, hdeclared _ hone, htable, entries, Model.columns?_tableFragment _ _ _ _, hzip⟩

theorem exists_enumDeclaration {schema : Schema} {d : Declarations} {declared : List Fragment}
    (hd : schema.declarations = .ok d) (hdeclared : ∀ one ∈ d.modular, one.declaration ∈ declared)
    (henums : schema.config.dialect.hasEnums = true) {enum : EnumType}
    (henum : enum ∈ schema.enums) :
    ∃ declaration ∈ declared, enum.declaration? schema.config.dialect = some declaration := by
  obtain ⟨-, -, -, hlisted⟩ := declarations_eq_ok.mp hd
  obtain ⟨declaration, hdeclaration⟩ := enum.declaration?_isSome henums
  refine ⟨declaration, ?_, hdeclaration⟩
  have hone := mem_declareEnums.mpr ⟨enum, henum, declaration, hdeclaration, rfl⟩
  exact hdeclared _ (mem_modular.mpr (.inr (.inl (hlisted ▸ hone))))

theorem defaultsDeclared_iff {schema : Schema} {d : Declarations} {declared : List Fragment}
    (hd : schema.declarations = .ok d) (hdeclared : ∀ one ∈ d.modular, one.declaration ∈ declared)
    (henums : schema.config.dialect.hasEnums = true) :
    schema.DefaultsDeclared declared ↔
      ∀ model field enum names, schema.EnumDefault model field enum names →
        ∀ name ∈ names, ∃ value ∈ enum.values, value.stored = name := by
  constructor
  · intro h model field enum names hfield name hname
    obtain ⟨column, hcolumn⟩ := exists_writes hd hdeclared hfield.model_mem hfield.field_mem
    obtain ⟨declaration, hmem, hdeclaration⟩ :=
      exists_enumDeclaration hd hdeclared henums hfield.enum_mem
    have hnames := defaultStrings_of_writes hfield hcolumn
    have hvalue := h model field enum names hfield column hcolumn declaration hmem hdeclaration
      name (hnames ▸ hname)
    rw [EnumType.enumStrings_declaration? hdeclaration] at hvalue
    exact List.mem_map.mp hvalue
  · intro h model field enum names hfield column hcolumn declaration _ hdeclaration name hname
    rw [defaultStrings_of_writes hfield hcolumn] at hname
    rw [EnumType.enumStrings_declaration? hdeclaration]
    exact List.mem_map.mpr (h model field enum names hfield name hname)

end Schema

def Datamodel.StoresNames (datamodel : Datamodel) : Prop :=
  ∀ enum ∈ datamodel.enums, ∀ value ∈ enum.values, value.stored = value.name

theorem modules_defaultsDeclared_iff {config : Config} {datamodel : Datamodel}
    {modules : List Module} (henums : config.dialect.hasEnums = true)
    (h : datamodel.modules config = .ok modules) :
    ∃ schema, Schema.ofDatamodel config datamodel = .ok schema ∧
      (schema.DefaultsDeclared (modules.flatMap Module.declarations) ↔
        ∀ model field enum names, schema.EnumDefault model field enum names →
          ∀ name ∈ names, ∃ value ∈ enum.values, value.stored = name) ∧
      (datamodel.StoresNames →
        schema.DefaultsDeclared (modules.flatMap Module.declarations)) := by
  obtain ⟨schema, d, hschema, hd, rfl⟩ := Datamodel.modules_eq_ok.mp h
  have henums' : schema.config.dialect.hasEnums = true := by
    rw [Schema.config_of_ofDatamodel hschema]
    exact henums
  have hwritten : ∀ one ∈ d.modular,
      one.declaration ∈ (d.modules config).flatMap Module.declarations :=
    fun _ => Declarations.declaration_mem
  have hexact := Schema.defaultsDeclared_iff hd hwritten henums'
  refine ⟨schema, hschema, hexact, fun hstored => hexact.mpr ?_⟩
  intro model field enum names hfield name hname
  obtain ⟨joins, -, rfl, -⟩ := Schema.ofDatamodel_eq_ok.mp hschema
  obtain ⟨value, hvalue, rfl⟩ := hfield.named name hname
  exact ⟨value, hvalue, hstored enum hfield.enum_mem value hvalue⟩

namespace RoleUsers

def role (stored : Option String) : EnumType :=
  { name := "Role", values := [{ name := "ADMIN" }, { name := "USER", dbName := stored }] }

def assigned : Field :=
  { name := "role", kind := .enum, type := "Role", isRequired := true,
    defaultValue := some (.literal (.string "USER")) }

def offered : Field :=
  { name := "offered", kind := .enum, type := "Role", isList := true,
    defaultValue := some (.literal (.array [.string "ADMIN", .string "USER"])) }

def user : Model :=
  { name := "User", fields := [{ name := "id", type := "Int", isId := true }, assigned, offered] }

def datamodel (stored : Option String) : Datamodel where
  models := [user]
  enums := [role stored]

def schema (stored : Option String) : Schema where
  config := Config.ofDialect .postgres
  models := [user]
  joins := []
  enums := [role stored]

theorem ofDatamodel_eq (stored : Option String) :
    Schema.ofDatamodel (Config.ofDialect .postgres) (datamodel stored) = .ok (schema stored) :=
  rfl

theorem enumDefault (stored : Option String) :
    (schema stored).EnumDefault user assigned (role stored) ["USER"] where
  model_mem := List.mem_cons_self
  field_mem := List.mem_cons_of_mem _ List.mem_cons_self
  kind := rfl
  enum_mem := List.mem_cons_self
  enum_name := rfl
  undirected := by
    intro directives h
    obtain rfl := Except.ok.inj h
    rfl
  default := .inl ⟨"USER", rfl, rfl⟩
  named := by
    intro name hname
    exact ⟨{ name := "USER", dbName := stored }, by simp [role], (List.mem_singleton.mp hname).symm⟩

end RoleUsers

theorem roleUsers_defaultsDeclared :
    (Config.ofDialect .postgres).dialect.hasEnums = true ∧
      ∃ modules, (RoleUsers.datamodel none).modules (Config.ofDialect .postgres) = .ok modules ∧
        ∃ schema, Schema.ofDatamodel (Config.ofDialect .postgres) (RoleUsers.datamodel none) =
          .ok schema ∧ schema.DefaultsDeclared (modules.flatMap Module.declarations) := by
  have hwritten :
      ((RoleUsers.datamodel none).modules (Config.ofDialect .postgres)).isOk = true := by
    decide
  have hstored : (RoleUsers.datamodel none).StoresNames := by
    unfold Datamodel.StoresNames
    decide
  obtain ⟨modules, h⟩ := exists_of_isOk hwritten
  obtain ⟨schema, hschema, -, hdeclared⟩ := modules_defaultsDeclared_iff rfl h
  exact ⟨rfl, modules, h, schema, hschema, hdeclared hstored⟩

theorem roleUsers_not_defaultsDeclared :
    ((RoleUsers.datamodel (some "user")).enums.map EnumType.name).Nodup ∧
      (Config.ofDialect .postgres).dialect.hasEnums = true ∧
      ∃ modules, (RoleUsers.datamodel (some "user")).modules (Config.ofDialect .postgres) =
        .ok modules ∧ ∃ schema, Schema.ofDatamodel (Config.ofDialect .postgres)
          (RoleUsers.datamodel (some "user")) = .ok schema ∧
          ¬ schema.DefaultsDeclared (modules.flatMap Module.declarations) := by
  have hwritten :
      ((RoleUsers.datamodel (some "user")).modules (Config.ofDialect .postgres)).isOk = true := by
    decide
  obtain ⟨modules, h⟩ := exists_of_isOk hwritten
  refine ⟨by decide, rfl, modules, h, RoleUsers.schema (some "user"), rfl, fun hdeclared => ?_⟩
  obtain ⟨schema, d, hschema, hd, rfl⟩ := Datamodel.modules_eq_ok.mp h
  obtain rfl := Except.ok.inj ((RoleUsers.ofDatamodel_eq _).symm.trans hschema)
  have hmem : ∀ one ∈ d.modular, one.declaration ∈
      (d.modules (Config.ofDialect .postgres)).flatMap Module.declarations :=
    fun _ => Declarations.declaration_mem
  have hexact := Schema.defaultsDeclared_iff hd hmem rfl
  have hstored := hexact.mp hdeclared _ _ _ _ (RoleUsers.enumDefault (some "user")) "USER"
    List.mem_cons_self
  revert hstored
  decide

end SchemaWriter
