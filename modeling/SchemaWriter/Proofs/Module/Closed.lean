import SchemaWriter.Proofs.Requirement.Merged
import SchemaWriter.Proofs.Schema.Written

namespace SchemaWriter

open Outcome

namespace Datamodel

def DeclaresEnums (datamodel : Datamodel) : Prop :=
  ∀ model ∈ datamodel.models, ∀ field ∈ model.fields, field.kind = .enum →
    ∃ enum ∈ datamodel.enums, enum.name = field.type

def SeparatesEnums (datamodel : Datamodel) : Prop :=
  ∀ model ∈ datamodel.models, ∀ field ∈ model.fields, field.kind = .enum →
    ∀ link : ManyToMany, link.IsLink datamodel.models → (model.name, field.name) ∉ link.ends

end Datamodel

namespace Schema

theorem enum_declared {config : Config} {datamodel : Datamodel} {schema : Schema}
    (hdeclared : datamodel.DeclaresEnums) (hseparate : datamodel.SeparatesEnums)
    (h : ofDatamodel config datamodel = .ok schema) {model : Model}
    (hmodel : model ∈ schema.allModels) {field : Field} (hfield : field ∈ model.fields)
    (hkind : field.kind = .enum) : ∃ enum ∈ schema.enums, enum.name = field.type := by
  obtain ⟨joins, hjoins, rfl, -⟩ := ofDatamodel_eq_ok.mp h
  obtain ⟨links, hlinks⟩ := JoinTable.ofModels_realizes hjoins
  rcases List.mem_append.mp hmodel with hmodel | hmodel
  · obtain ⟨input, hinput, rfl⟩ := List.mem_map.mp hmodel
    obtain ⟨original, horiginal, rfl⟩ := List.mem_map.mp hfield
    rw [JoinTable.turnField_kind] at hkind
    -- A field keeps its kind when it is turned, and would then name the join table as its enum.
    have hfree : ¬ JoinTable.Takes joins input.name original.name := by
      intro htakes
      obtain ⟨link, hlink, hend⟩ := hlinks.takes_iff.mp htakes
      exact hseparate input hinput original horiginal hkind link (hlinks.sound link hlink) hend
    rw [JoinTable.turnField_eq_self hfree]
    exact hdeclared input hinput original horiginal hkind
  · obtain ⟨join, hjoin, rfl⟩ := List.mem_map.mp hmodel
    obtain ⟨link, hlink, htable⟩ := hlinks.exists_link hjoin
    obtain ⟨aId, bId, ha, hb, rfl⟩ := ManyToMany.joinTable_eq_ok.mp htable
    obtain ⟨hamem, hbmem⟩ := (hlinks.sound link hlink).sides_mem
    rcases ManyToMany.mem_table_fields.mp hfield with rfl | rfl | rfl | rfl
    · exact hdeclared _ hamem aId (Model.idField?_eq_some ha).1 hkind
    · exact hdeclared _ hbmem bId (Model.idField?_eq_some hb).1 hkind
    · cases hkind
    · cases hkind

theorem sibling_declared {config : Config} {datamodel : Datamodel} {schema : Schema}
    {d : Declarations} (hdeclared : datamodel.DeclaresEnums)
    (hseparate : config.dialect.hasEnums = true → datamodel.SeparatesEnums)
    (hschema : ofDatamodel config datamodel = .ok schema)
    (hd : schema.declarations = .ok d) {one : Declared} (hone : one ∈ d.modular)
    {r : Requirement} (hr : r ∈ one.declaration.imports) (hsibling : r.source.isSibling = true) :
    ∃ target ∈ d.modular, ∃ name, target.declaration.name? = some name ∧
      r = .sibling name target.module := by
  have htable : ∀ model ∈ schema.allModels, ∃ target ∈ d.modular, ∃ name,
      target.declaration.name? = some name ∧
      Requirement.sibling (Naming.tableBinding model.name) (Naming.tableModule model.name) =
        .sibling name target.module := by
    intro model hmodel
    obtain ⟨target, htarget, hdeclare⟩ := exists_table hd hmodel
    obtain ⟨table, hfragment, rfl⟩ := declareTable_eq_ok.mp hdeclare
    obtain ⟨columns, key, -, -, rfl⟩ := Model.declaration_eq_ok.mp hfragment
    exact ⟨_, htarget, _, Model.name?_tableFragment _ model columns key, rfl⟩
  cases origin_of_mem hd hone with
  | table model hmodel hdeclare =>
    obtain ⟨table, hfragment, rfl⟩ := declareTable_eq_ok.mp hdeclare
    obtain ⟨field, hfield, hkind, henums, rfl⟩ :=
      Model.declaration_sibling hfragment hr hsibling
    have hseparate' := hseparate (config_of_ofDatamodel hschema ▸ henums)
    obtain ⟨enum, henum, hname⟩ := enum_declared hdeclared hseparate' hschema hmodel hfield hkind
    obtain ⟨target, htarget, hmodule, hbinding⟩ := exists_enum hd henums henum
    rw [← hname]
    exact ⟨target, htarget, _, hbinding, by rw [hmodule]⟩
  | enum hdeclare =>
    obtain ⟨enum, -, fragment, hfragment, rfl⟩ := mem_declareEnums.mp hdeclare
    have hforeign := (EnumType.declaration?_eq_some hfragment).2 r hr
    rw [hsibling] at hforeign
    cases hforeign
  | relations model hmodel hdeclare =>
    obtain ⟨-, fragment, hfragment, rfl⟩ := declareRelations?_eq_some.mp hdeclare
    obtain ⟨related, hrelated, rfl⟩ := relations?_sibling hmodel hfragment hr hsibling
    exact htable related hrelated

end Schema

namespace Declarations

def moduleOf (resolution : Resolution) (one : Declared) : Module :=
  .assemble resolution one.module [one.declaration]

theorem directory_eq (resolution : Resolution) (d : Declarations) :
    d.directory resolution = d.modular.map (moduleOf resolution) ++
      [Module.schemaRoot resolution (d.modular.map (moduleOf resolution))] :=
  rfl

theorem source_of_mem_imports {resolution : Resolution} {one : Declared} {r : Requirement}
    (hr : r ∈ (moduleOf resolution one).imports) :
    ∃ required ∈ one.declaration.imports, required.source = r.source := by
  obtain ⟨required, hrequired, hsource⟩ := Requirement.exists_source_merge.mp ⟨r, hr, rfl⟩
  have hmem := (List.mem_filter.mp hrequired).1
  rw [Module.requirements, List.flatMap_singleton] at hmem
  exact ⟨required, hmem, hsource⟩

theorem requires_of_imports {resolution : Resolution} {one : Declared} {source : Specifier}
    {name : String} (h : Requirement.Requires (moduleOf resolution one).imports source name) :
    Requirement.Requires one.declaration.imports source name := by
  obtain ⟨required, hrequired, hsource, hname⟩ := Requirement.requires_merge.mp h
  have hmem := (List.mem_filter.mp hrequired).1
  rw [Module.requirements, List.flatMap_singleton] at hmem
  exact ⟨required, hmem, hsource, hname⟩

end Declarations

namespace Module

theorem mem_schemaRoot_imports {resolution : Resolution} {modules : List Module}
    {r : Requirement} :
    r ∈ (schemaRoot resolution modules).imports ↔
      ∃ target ∈ modules, .wildcard (Naming.moduleAlias target.name) target.name = r := by
  rw [schemaRoot, Requirement.mem_merge_of_none_named, List.mem_map]
  intro required hrequired
  obtain ⟨target, -, rfl⟩ := List.mem_map.mp hrequired
  rfl

end Module

structure ClosedDirectory (modules : List Module) : Prop where
  bindings_declared : ∀ m ∈ modules, ∀ source name,
    Requirement.Requires m.imports (.sibling source) name →
      ∃ target ∈ modules, target.name = source ∧ name ∈ target.bindings
  modules_present : ∀ m ∈ modules, ∀ r ∈ m.imports, ∀ source, r.source = .sibling source →
    ∃ target ∈ modules, target.name = source
  root_gathers : ∃ front root, modules = front ++ [root] ∧ root.name = Module.schemaName ∧
    ∀ r ∈ root.imports, ∃ target ∈ front,
      r = .wildcard (Naming.moduleAlias target.name) target.name

theorem modules_closedDirectory {config : Config} {datamodel : Datamodel}
    {modules : List Module} (hdeclared : datamodel.DeclaresEnums)
    (hseparate : config.dialect.hasEnums = true → datamodel.SeparatesEnums)
    (hdirectory : config.outputMode = .directory)
    (h : datamodel.modules config = .ok modules) : ClosedDirectory modules := by
  obtain ⟨schema, d, hschema, hd, rfl⟩ := Datamodel.modules_eq_ok.mp h
  simp only [Declarations.modules, hdirectory, Declarations.directory_eq]
  generalize hfront : d.modular.map (Declarations.moduleOf config.resolution) = front
  have hmodule : ∀ target ∈ d.modular, Declarations.moduleOf config.resolution target ∈ front :=
    fun target htarget => hfront ▸ List.mem_map.mpr ⟨target, htarget, rfl⟩
  have hroot : ∀ r ∈ (Module.schemaRoot config.resolution front).imports, ∃ target ∈ front,
      r = .wildcard (Naming.moduleAlias target.name) target.name := by
    intro r hr
    obtain ⟨target, htarget, hr⟩ := Module.mem_schemaRoot_imports.mp hr
    exact ⟨target, htarget, hr.symm⟩
  refine ⟨fun m hm source name hrequires => ?_, fun m hm r hr source hsource => ?_,
    front, Module.schemaRoot config.resolution front, rfl, rfl, hroot⟩
  · rcases List.mem_append.mp hm with hm | hm
    · obtain ⟨one, hone, rfl⟩ := List.mem_map.mp (hfront.symm ▸ hm)
      obtain ⟨r, hr, hsource, hname⟩ := Declarations.requires_of_imports hrequires
      obtain ⟨target, htarget, binding, hbinding, rfl⟩ := Schema.sibling_declared hdeclared
        hseparate hschema hd hone hr (by rw [hsource]; rfl)
      obtain rfl : name = binding := by
        simpa [Requirement.names, Requirement.sibling] using hname
      refine ⟨_, List.mem_append_left _ (hmodule target htarget), ?_, ?_⟩
      · exact Specifier.sibling.inj hsource
      · simp [Declarations.moduleOf, Module.assemble, Module.bindings, hbinding]
    · obtain rfl := List.mem_singleton.mp hm
      obtain ⟨r, hr, -, hname⟩ := hrequires
      obtain ⟨target, -, rfl⟩ := hroot r hr
      simp [Requirement.names, Requirement.wildcard] at hname
  · rcases List.mem_append.mp hm with hm | hm
    · obtain ⟨one, hone, rfl⟩ := List.mem_map.mp (hfront.symm ▸ hm)
      obtain ⟨required, hrequired, hsame⟩ := Declarations.source_of_mem_imports hr
      obtain ⟨target, htarget, binding, -, rfl⟩ := Schema.sibling_declared hdeclared
        hseparate hschema hd hone hrequired (by rw [hsame, hsource]; rfl)
      refine ⟨_, List.mem_append_left _ (hmodule target htarget), ?_⟩
      exact Specifier.sibling.inj (hsame.trans hsource)
    · obtain rfl := List.mem_singleton.mp hm
      obtain ⟨target, htarget, rfl⟩ := hroot r hr
      exact ⟨target, List.mem_append_left _ htarget, Specifier.sibling.inj hsource⟩

def rolePosts (role : String) : Datamodel where
  models := [
    { name := "Post", fields := [
      { name := "id", type := "Int", isId := true },
      { name := "tags", kind := .object, type := "Tag", isList := true,
        relationName := some "PostToTag" },
      { name := role, kind := .enum, type := "Role" }] },
    { name := "Tag", fields := [
      { name := "id", type := "Int", isId := true },
      { name := "posts", kind := .object, type := "Post", isList := true,
        relationName := some "PostToTag" }] }]
  enums := [{ name := "Role", values := [{ name := "USER" }] }]

theorem rolePosts_closedDirectory :
    (rolePosts "role").DeclaresEnums ∧ (rolePosts "role").SeparatesEnums ∧
      (Config.ofDialect .postgres).outputMode = .directory ∧
      ∃ modules, (rolePosts "role").modules (Config.ofDialect .postgres) = .ok modules ∧
        ClosedDirectory modules := by
  have hdeclared : (rolePosts "role").DeclaresEnums := by
    unfold Datamodel.DeclaresEnums
    decide
  have hlists : ∀ model ∈ (rolePosts "role").models, ∀ field ∈ model.fields, field.kind = .enum →
      ∀ other ∈ (rolePosts "role").models, other.name = model.name →
        ∀ list ∈ other.relationFields, list.name ≠ field.name := by
    decide
  have hseparate : (rolePosts "role").SeparatesEnums := by
    intro model hmodel field hfield hkind link hlink hend
    obtain ⟨other, hother, hname, list, hlist, hsame⟩ := hlink.exists_of_ends hend
    exact hlists model hmodel field hfield hkind other hother hname list hlist hsame
  have hdirectory : (Config.ofDialect .postgres).outputMode = .directory := by decide
  have hwritten : ((rolePosts "role").modules (Config.ofDialect .postgres)).isOk = true := by
    decide
  obtain ⟨modules, h⟩ := exists_of_isOk hwritten
  exact ⟨hdeclared, hseparate, hdirectory, modules, h,
    modules_closedDirectory hdeclared (fun _ => hseparate) hdirectory h⟩

def importsAbsent (modules : List Module) (source name : String) : Bool :=
  modules.any (fun m => m.imports.any fun r =>
    r.source = .sibling source && r.names.contains name) &&
  modules.all fun m => m.name ≠ source

theorem rolePosts_not_closedDirectory :
    (rolePosts "tags").DeclaresEnums ∧ (Config.ofDialect .postgres).outputMode = .directory ∧
      ∃ modules, (rolePosts "tags").modules (Config.ofDialect .postgres) = .ok modules ∧
        ¬ ClosedDirectory modules := by
  have hdeclared : (rolePosts "tags").DeclaresEnums := by
    unfold Datamodel.DeclaresEnums
    decide
  have habsent : ((rolePosts "tags").modules (Config.ofDialect .postgres)).toOption.any
      (importsAbsent · "post-to-tag-enum" "postToTagEnum") = true := by
    decide
  obtain ⟨modules, h, habsent⟩ := exists_of_any habsent
  refine ⟨hdeclared, by decide, modules, h, fun hclosed => ?_⟩
  obtain ⟨himports, hnone⟩ := Bool.and_eq_true_iff.mp habsent
  obtain ⟨m, hm, hr⟩ := List.any_eq_true.mp himports
  obtain ⟨r, hr, hrequires⟩ := List.any_eq_true.mp hr
  simp only [Bool.and_eq_true, decide_eq_true_eq, List.contains_eq_mem] at hrequires
  obtain ⟨target, htarget, hname, -⟩ := hclosed.bindings_declared m hm "post-to-tag-enum"
    "postToTagEnum" ⟨r, hr, hrequires⟩
  have hother := List.all_eq_true.mp hnone target htarget
  simp [hname] at hother

end SchemaWriter
