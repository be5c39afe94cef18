import SchemaWriter.Proofs.Datamodel.Distinct
import SchemaWriter.Proofs.Module.BoundOnce

namespace SchemaWriter

open Outcome
open Requirement (Requires)

namespace Fragment

def Needs (fragment : Fragment) (name : String) : Prop :=
  ∃ source, Requires fragment.imports (.sibling source) name

def WellScoped : List String → List Fragment → Prop
  | _, [] => True
  | scope, first :: rest =>
    (∀ name, first.Needs name → name ∈ scope) ∧ WellScoped (scope ++ first.name?.toList) rest

theorem filterMap_name?_cons (first : Fragment) (rest : List Fragment) :
    (first :: rest).filterMap name? = first.name?.toList ++ rest.filterMap name? := by
  cases hname : first.name? <;> simp [hname]

theorem wellScoped_append {scope : List String} {front back : List Fragment} :
    WellScoped scope (front ++ back) ↔
      WellScoped scope front ∧ WellScoped (scope ++ front.filterMap name?) back := by
  induction front generalizing scope with
  | nil => simp [WellScoped]
  | cons first rest ih =>
    rw [filterMap_name?_cons, ← List.append_assoc, List.cons_append, WellScoped, WellScoped, ih,
      and_assoc]

theorem wellScoped_of_forall {scope : List String} {declarations : List Fragment}
    (h : ∀ one ∈ declarations, ∀ name, one.Needs name → name ∈ scope) :
    WellScoped scope declarations := by
  induction declarations generalizing scope with
  | nil => trivial
  | cons first rest ih =>
    rw [List.forall_mem_cons] at h
    refine ⟨h.1, ih fun other hother name hneeds => ?_⟩
    exact List.mem_append_left _ (h.2 other hother name hneeds)

theorem wellScoped_iff {scope : List String} {declarations : List Fragment} :
    WellScoped scope declarations ↔ ∀ front one back,
      declarations = front ++ one :: back → ∀ name, one.Needs name →
        name ∈ scope ++ front.filterMap name? := by
  constructor
  · rintro h front one back rfl
    exact (wellScoped_append.mp h).2.1
  · intro h
    induction declarations generalizing scope with
    | nil => trivial
    | cons first rest ih =>
      refine ⟨fun name hneeds => ?_, ih fun front one back hrest name hneeds => ?_⟩
      · simpa using h [] first rest rfl name hneeds
      · have hscope := h (first :: front) one back (by rw [hrest]; rfl) name hneeds
        rwa [filterMap_name?_cons, ← List.append_assoc] at hscope

theorem mem_scope_of_wellScoped {scope : List String} {declarations : List Fragment}
    (h : WellScoped scope declarations) {one : Fragment} (hone : one ∈ declarations)
    {name : String} (hneeds : one.Needs name)
    (hother : ∀ other ∈ declarations, other.name? ≠ some name) : name ∈ scope := by
  obtain ⟨front, back, rfl⟩ := List.append_of_mem hone
  rcases List.mem_append.mp (wellScoped_iff.mp h front one back rfl name hneeds) with
    hscope | hfront
  · exact hscope
  · obtain ⟨other, hfront, hname⟩ := List.mem_filterMap.mp hfront
    exact absurd hname (hother other (List.mem_append_left _ hfront))

end Fragment

namespace Module

def DeclaresBeforeUse (m : Module) : Prop :=
  ∀ front declaration back, m.declarations = front ++ declaration :: back →
    ∀ source name, Requires declaration.imports (.sibling source) name →
      ∃ earlier ∈ front, earlier.name? = some name

def ListsBindings (m : Module) : Prop :=
  ∃ front, ∃ bindings : List String, front.map Fragment.name? = bindings.map some ∧
    m.declarations = front ++ [schemaDeclaration (bindings.map .shorthand)]

theorem declaresBeforeUse_iff {m : Module} :
    m.DeclaresBeforeUse ↔ Fragment.WellScoped [] m.declarations := by
  simp only [Fragment.wellScoped_iff, List.nil_append, List.mem_filterMap]
  constructor
  · rintro h front declaration back hsplit name ⟨source, hrequires⟩
    exact h front declaration back hsplit source name hrequires
  · intro h front declaration back hsplit source name hrequires
    exact h front declaration back hsplit name ⟨source, hrequires⟩

theorem imports_schemaDeclaration (bindings : List String) :
    (schemaDeclaration (bindings.map .shorthand)).imports = [] := by
  have hentries : Fragment.importsOfEntries (bindings.map Entry.shorthand) = [] := by
    simp [Fragment.importsOfEntries_eq_flatMap, List.flatMap_map, Fragment.importsOfEntry]
  simpa [schemaDeclaration, Fragment.imports] using hentries

end Module

namespace Schema

def BindsEnums (schema : Schema) : Prop :=
  ∀ model ∈ schema.allModels, ∀ field ∈ model.fields, field.kind = .enum →
    ∃ enum ∈ schema.writtenEnums, Naming.enumBinding enum.name = Naming.enumBinding field.type

instance (schema : Schema) : Decidable schema.BindsEnums :=
  inferInstanceAs (Decidable (∀ model ∈ schema.allModels, ∀ field ∈ model.fields,
    field.kind = .enum → ∃ enum ∈ schema.writtenEnums,
      Naming.enumBinding enum.name = Naming.enumBinding field.type))

variable {schema : Schema} {model : Model} {one : Declared} {name : String}

theorem not_needs_enum (h : one ∈ schema.declareEnums) : ¬ one.declaration.Needs name := by
  obtain ⟨enum, -, fragment, hfragment, rfl⟩ := mem_declareEnums.mp h
  rintro ⟨source, r, hr, hsource, -⟩
  have hforeign := (EnumType.declaration?_eq_some hfragment).2 r hr
  rw [hsource] at hforeign
  cases hforeign

theorem needs_table_iff (h : schema.declareTable model = .ok one) :
    one.declaration.Needs name ↔ ∃ field ∈ model.fields, field.kind = .enum ∧
      Naming.enumBinding field.type = name := by
  obtain ⟨table, htable, rfl⟩ := declareTable_eq_ok.mp h
  constructor
  · rintro ⟨source, r, hr, hsource, hname⟩
    obtain ⟨field, hfield, hkind, -, rfl⟩ :=
      Model.declaration_sibling htable hr (by rw [hsource]; rfl)
    exact ⟨field, hfield, hkind, (List.mem_singleton.mp hname).symm⟩
  · rintro ⟨field, hfield, hkind, rfl⟩
    exact ⟨_, _, Model.enum_mem_imports htable hfield hkind, rfl, List.mem_singleton_self _⟩

theorem hasEnums_of_declareTable (h : schema.declareTable model = .ok one) {field : Field}
    (hfield : field ∈ model.fields) (hkind : field.kind = .enum) :
    schema.config.dialect.hasEnums = true := by
  obtain ⟨table, htable, rfl⟩ := declareTable_eq_ok.mp h
  obtain ⟨-, -, -, henums, -⟩ :=
    Model.declaration_sibling htable (Model.enum_mem_imports htable hfield hkind) rfl
  exact henums

theorem mem_allModels_of_mentioned {other : Model} (hmodel : model ∈ schema.allModels)
    (h : other ∈ schema.mentioned model) : other ∈ schema.allModels := by
  rcases mem_mentioned.mp h with rfl | ⟨field, -, hresolve⟩
  · exact hmodel
  · exact (findModel?_eq_some (Field.resolve_eq_ok.mp hresolve).1).1

theorem exists_table_of_needs (hmodel : model ∈ schema.allModels)
    (h : schema.declareRelations? model = .ok (some one)) (hneeds : one.declaration.Needs name) :
    ∃ other ∈ schema.allModels, Naming.tableBinding other.name = name := by
  obtain ⟨source, hrequires⟩ := hneeds
  rcases (requires_relations h).mp hrequires with ⟨-, hsource⟩ | ⟨other, hother, rfl, -⟩
  · cases hsource
  · exact ⟨other, mem_allModels_of_mentioned hmodel hother, rfl⟩

theorem bindings_of_names {declared : List Declared} {bindings : List String}
    (h : declared.map (·.declaration.name?) = bindings.map some) :
    (declared.map (·.declaration)).filterMap Fragment.name? = bindings := by
  calc (declared.map (·.declaration)).filterMap Fragment.name?
      = (declared.map (·.declaration.name?)).filterMap id := by
        rw [List.filterMap_map, List.filterMap_map]
        rfl
    _ = bindings := by
        rw [h]
        simp

theorem bindings_declareEnums (schema : Schema) :
    (schema.declareEnums.map (·.declaration)).filterMap Fragment.name? =
      schema.writtenEnums.map (Naming.enumBinding ·.name) := by
  apply bindings_of_names
  rw [List.map_map]
  apply map_eq_map_of_forall₂ schema.declareEnums_forall₂
  rintro enum one ⟨fragment, hfragment, rfl⟩
  exact (EnumType.declaration?_eq_some hfragment).1

namespace Sequence

variable {tables relations : List Declared}

theorem bindings_tables (h : schema.Sequence tables relations) :
    (tables.map (·.declaration)).filterMap Fragment.name? =
      schema.allModels.map (Naming.tableBinding ·.name) := by
  apply bindings_of_names
  rw [List.map_map]
  apply map_eq_map_of_forall₂ h.tables_written
  exact fun model one hone => (table_named hone).2

theorem wellScoped_tables_iff (h : schema.Sequence tables relations) :
    Fragment.WellScoped (schema.writtenEnums.map (Naming.enumBinding ·.name))
      (tables.map (·.declaration)) ↔ schema.BindsEnums := by
  constructor
  · intro hscoped model hmodel field hfield hkind
    obtain ⟨one, hone, hdeclare⟩ := exists_of_mem_left h.tables_written hmodel
    have hneeds := (needs_table_iff hdeclare).mpr ⟨field, hfield, hkind, rfl⟩
    have hother : ∀ other ∈ tables.map (·.declaration),
        other.name? ≠ some (Naming.enumBinding field.type) := by
      rw [List.forall_mem_map]
      intro other hother hname
      obtain ⟨owner, -, hdeclare⟩ := exists_of_mem_right h.tables_written hother
      rw [(table_named hdeclare).2] at hname
      exact Naming.enumBinding_ne_tableBinding _ _ (Option.some.inj hname).symm
    have hscope := Fragment.mem_scope_of_wellScoped hscoped (List.mem_map_of_mem hone) hneeds hother
    exact List.mem_map.mp hscope
  · intro hbinds
    apply Fragment.wellScoped_of_forall
    rw [List.forall_mem_map]
    intro one hone name hneeds
    obtain ⟨model, hmodel, hdeclare⟩ := exists_of_mem_right h.tables_written hone
    obtain ⟨field, hfield, hkind, rfl⟩ := (needs_table_iff hdeclare).mp hneeds
    exact List.mem_map.mpr (hbinds model hmodel field hfield hkind)

theorem wellScoped_relations (h : schema.Sequence tables relations) (scope : List String) :
    Fragment.WellScoped (scope ++ schema.allModels.map (Naming.tableBinding ·.name))
      (relations.map (·.declaration)) := by
  apply Fragment.wellScoped_of_forall
  rw [List.forall_mem_map]
  intro one hone name hneeds
  obtain ⟨model, hmodel, hdeclare⟩ := exists_of_mem_right h.relations_written hone
  have hmodel := (mem_related.mp hmodel).1
  exact List.mem_append_right _ (List.mem_map.mpr (exists_table_of_needs hmodel hdeclare hneeds))

end Sequence

theorem wellScoped_sequential_iff {d : Declarations} (h : schema.declarations = .ok d) :
    Fragment.WellScoped [] (d.sequential.map (·.declaration)) ↔ schema.BindsEnums := by
  obtain ⟨tables, relations, hsequence, hsequential⟩ := exists_sequence h
  have henums : Fragment.WellScoped [] (schema.declareEnums.map (·.declaration)) := by
    apply Fragment.wellScoped_of_forall
    rw [List.forall_mem_map]
    exact fun one hone name hneeds => absurd hneeds (not_needs_enum hone)
  rw [hsequential, List.map_append, List.map_append, Fragment.wellScoped_append,
    Fragment.wellScoped_append, List.filterMap_append, bindings_declareEnums,
    hsequence.bindings_tables, List.nil_append, List.nil_append, hsequence.wellScoped_tables_iff]
  constructor
  · rintro ⟨⟨-, hbinds⟩, -⟩
    exact hbinds
  · intro hbinds
    exact ⟨⟨henums, hbinds⟩, hsequence.wellScoped_relations _⟩

theorem bindsEnums {config : Config} {datamodel : Datamodel} {d : Declarations}
    (hdeclared : datamodel.DeclaresEnums)
    (hseparate : config.dialect.hasEnums = true → datamodel.SeparatesEnums)
    (hschema : ofDatamodel config datamodel = .ok schema) (hd : schema.declarations = .ok d) :
    schema.BindsEnums := by
  intro model hmodel field hfield hkind
  obtain ⟨one, -, hdeclare⟩ := exists_table hd hmodel
  have henums := hasEnums_of_declareTable hdeclare hfield hkind
  have hseparate := hseparate (config_of_ofDatamodel hschema ▸ henums)
  obtain ⟨enum, henum, hname⟩ := enum_declared hdeclared hseparate hschema hmodel hfield hkind
  exact ⟨enum, mem_writtenEnums.mpr ⟨henums, henum⟩, by rw [hname]⟩

end Schema

theorem Datamodel.Distinct.separatesEnums {datamodel : Datamodel} (h : datamodel.Distinct) :
    datamodel.SeparatesEnums := by
  intro model hmodel field hfield hkind link hlink hend
  have hrelation := h.mem_relationFields_of_ends hlink hmodel hfield hend
  simp [Model.mem_relationFields, hkind] at hrelation

namespace Declarations

variable {schema : Schema} {d : Declarations}

theorem declaresBeforeUse_singleFile_iff (h : schema.declarations = .ok d)
    (resolution : Resolution) (stem : String) :
    (d.singleFile resolution stem).DeclaresBeforeUse ↔ schema.BindsEnums := by
  rw [Module.declaresBeforeUse_iff, ← Schema.wellScoped_sequential_iff h, singleFile,
    Module.assembleSingle, Fragment.wellScoped_append, and_iff_left_iff_imp]
  intro _
  apply Fragment.wellScoped_of_forall
  rw [List.forall_mem_singleton]
  rintro name ⟨source, r, hr, -⟩
  rw [Module.imports_schemaDeclaration] at hr
  cases hr

theorem listsBindings_singleFile (h : schema.declarations = .ok d) (resolution : Resolution)
    (stem : String) : (d.singleFile resolution stem).ListsBindings := by
  have hnames := Schema.map_name?_sequential h
  refine ⟨d.sequential.map (·.declaration), schema.bindings, ?_, ?_⟩
  · rw [List.map_map]
    exact hnames
  · rw [singleFile, Module.assembleSingle, Schema.bindings_of_names hnames]

end Declarations

theorem modules_declaresBeforeUse {config : Config} {datamodel : Datamodel}
    {modules : List Module} {stem : String} (hsingle : config.outputMode = .singleFile stem)
    (h : datamodel.modules config = .ok modules) :
    ∃ schema file, Schema.ofDatamodel config datamodel = .ok schema ∧ modules = [file] ∧
      file.ListsBindings ∧ (file.DeclaresBeforeUse ↔ schema.BindsEnums) ∧
      (datamodel.DeclaresEnums → (config.dialect.hasEnums = true → datamodel.SeparatesEnums) →
        file.DeclaresBeforeUse) := by
  obtain ⟨schema, d, hschema, hd, rfl⟩ := Datamodel.modules_eq_ok.mp h
  have hiff := Declarations.declaresBeforeUse_singleFile_iff hd config.resolution stem
  refine ⟨schema, d.singleFile config.resolution stem, hschema, ?_,
    Declarations.listsBindings_singleFile hd config.resolution stem, hiff,
    fun hdeclared hseparate => hiff.mpr ?_⟩
  · rw [Declarations.modules, hsingle]
  · exact Schema.bindsEnums hdeclared hseparate hschema hd

theorem rolePosts_declaresEnums (role : String) : (rolePosts role).DeclaresEnums := by
  have htype : ∀ model ∈ (rolePosts role).models, ∀ field ∈ model.fields, field.kind = .enum →
      field.type = "Role" := by
    simp [rolePosts]
  intro model hmodel field hfield hkind
  exact ⟨_, List.mem_singleton_self _, (htype model hmodel field hfield hkind).symm⟩

theorem rolePosts_declaresBeforeUse :
    (rolePosts "role").DeclaresEnums ∧ (rolePosts "role").SeparatesEnums ∧
      ((Config.ofDialect .postgres).inFile "./db.ts").outputMode = .singleFile "db" ∧
      ∃ file, (rolePosts "role").modules ((Config.ofDialect .postgres).inFile "./db.ts") =
        .ok [file] ∧ file.ListsBindings ∧ file.DeclaresBeforeUse := by
  have hdeclared := rolePosts_declaresEnums "role"
  have hdistinct : (rolePosts "role").Distinct := ⟨by decide, by decide⟩
  have hseparate := hdistinct.separatesEnums
  have hsingle : ((Config.ofDialect .postgres).inFile "./db.ts").outputMode = .singleFile "db" := by
    decide
  have hwritten : ((rolePosts "role").modules
      ((Config.ofDialect .postgres).inFile "./db.ts")).isOk = true := by
    decide
  obtain ⟨modules, h⟩ := exists_of_isOk hwritten
  obtain ⟨schema, file, -, rfl, hlists, -, hfirst⟩ := modules_declaresBeforeUse hsingle h
  exact ⟨hdeclared, hseparate, hsingle, file, h, hlists, hfirst hdeclared fun _ => hseparate⟩

theorem rolePosts_not_declaresBeforeUse :
    (rolePosts "tags").DeclaresEnums ∧
      ((Config.ofDialect .postgres).inFile "./db.ts").outputMode = .singleFile "db" ∧
      ∃ file, (rolePosts "tags").modules ((Config.ofDialect .postgres).inFile "./db.ts") =
        .ok [file] ∧ ¬ file.DeclaresBeforeUse := by
  have hsingle : ((Config.ofDialect .postgres).inFile "./db.ts").outputMode = .singleFile "db" := by
    decide
  have hwritten : ((rolePosts "tags").modules
      ((Config.ofDialect .postgres).inFile "./db.ts")).isOk = true := by
    decide
  have hunbound : (Schema.ofDatamodel ((Config.ofDialect .postgres).inFile "./db.ts")
      (rolePosts "tags")).toOption.any (fun schema => decide (¬ schema.BindsEnums)) = true := by
    decide
  obtain ⟨modules, h⟩ := exists_of_isOk hwritten
  obtain ⟨schema, hschema, hunbound⟩ := exists_of_any hunbound
  obtain ⟨same, d, hsame, hd, rfl⟩ := Datamodel.modules_eq_ok.mp h
  obtain rfl := Except.ok.inj (hschema.symm.trans hsame)
  rw [Declarations.modules, hsingle] at h
  refine ⟨rolePosts_declaresEnums "tags", hsingle, _, h, ?_⟩
  rw [Declarations.declaresBeforeUse_singleFile_iff hd]
  exact of_decide_eq_true hunbound

end SchemaWriter
