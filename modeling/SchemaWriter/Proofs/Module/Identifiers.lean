import SchemaWriter.Proofs.Module.BoundOnce
import SchemaWriter.Proofs.Naming.Identifiers

namespace SchemaWriter

open Outcome
open Naming

namespace Module

structure BindsIdentifiers (m : Module) : Prop where
  declared : ∀ name ∈ m.bindings, isIdentifier name = true
  aliased : ∀ r ∈ m.imports, ∀ name, r.clause = .wildcard name → isIdentifier name = true

theorem bindsIdentifiers_iff_of_named {m : Module} (h : ∀ r ∈ m.imports, r.isNamed = true) :
    m.BindsIdentifiers ↔ ∀ name ∈ m.bindings, isIdentifier name = true := by
  refine ⟨BindsIdentifiers.declared, fun hdeclared => ⟨hdeclared, fun r hr name hclause => ?_⟩⟩
  have hnamed := h r hr
  simp [Requirement.isNamed, hclause] at hnamed

theorem bindsIdentifiers_schemaRoot_iff {resolution : Resolution} {modules : List Module} :
    (schemaRoot resolution modules).BindsIdentifiers ↔
      ∀ m ∈ modules, isIdentifier (moduleAlias m.name) = true := by
  have hbindings : (schemaRoot resolution modules).bindings = [schemaName] := rfl
  have hschema : isIdentifier schemaName = true := by decide
  constructor
  · intro h m hm
    exact h.aliased _ (mem_schemaRoot_imports.mpr ⟨m, hm, rfl⟩) _ rfl
  · intro h
    refine ⟨?_, fun r hr name hclause => ?_⟩
    · rw [hbindings]
      exact List.forall_mem_singleton.mpr hschema
    · obtain ⟨m, hm, rfl⟩ := mem_schemaRoot_imports.mp hr
      obtain rfl := Clause.wildcard.inj hclause
      exact h m hm

end Module

namespace Schema

variable {schema : Schema} {d : Declarations}

def SpellsTables (schema : Schema) : Prop :=
  ∀ model ∈ schema.allModels, isIdentifier (tableBinding model.name) = true

section

variable (henums : ∀ enum ∈ schema.writtenEnums, isPlainName enum.name = true)
  (htables : schema.SpellsTables) (h : schema.declarations = .ok d)
include henums htables h

theorem identifiers_of_mem_modular : ∀ one ∈ d.modular,
    (∀ name ∈ one.declaration.name?, isIdentifier name = true) ∧
      isIdentifier (moduleAlias one.module) = true := by
  rw [forall_modular_iff h]
  refine ⟨fun enum henum fragment hfragment => ?_, fun model hmodel one hone => ?_,
    fun model hmodel one hone => ?_⟩
  · have hplain := henums enum henum
    have hspellable := spellable_lowerCamel_of_isPlainName hplain
    rw [(EnumType.declaration?_eq_some hfragment).1]
    refine ⟨?_, isIdentifier_moduleAlias_enumModule
      (ascii_of_isIdentifier (isIdentifier_of_isPlainName hplain)) hspellable⟩
    rintro _ ⟨⟩
    exact isIdentifier_enumBinding hspellable
  · have htable := htables model hmodel
    rw [(table_named hone).1, (table_named hone).2]
    refine ⟨?_, isIdentifier_moduleAlias_tableModule htable⟩
    rintro _ ⟨⟩
    exact htable
  · have htable := htables model (mem_related.mp hmodel).1
    rw [(relations_named hone).1, (relations_named hone).2]
    refine ⟨?_, isIdentifier_moduleAlias_relationsModule htable⟩
    rintro _ ⟨⟩
    exact isIdentifier_relationsBinding htable

end

theorem bindsIdentifiers_moduleOf_iff (h : schema.declarations = .ok d) {one : Declared}
    (hone : one ∈ d.modular) {resolution : Resolution} :
    (Declarations.moduleOf resolution one).BindsIdentifiers ↔
      ∀ name ∈ one.declaration.name?, isIdentifier name = true := by
  have hnamed : ∀ r ∈ (Declarations.moduleOf resolution one).imports, r.isNamed = true := by
    refine fun r hr => Requirement.isNamed_of_mem_merge (fun required hrequired => ?_) hr
    have hmem := (List.mem_filter.mp hrequired).1
    rw [Module.requirements, List.flatMap_singleton] at hmem
    exact isNamed_of_mem_imports h one hone required hmem
  rw [Module.bindsIdentifiers_iff_of_named hnamed]
  have hbindings : (Declarations.moduleOf resolution one).bindings =
      one.declaration.name?.toList := by
    cases hname : one.declaration.name? <;>
      simp [Declarations.moduleOf, Module.bindings, Module.assemble, hname]
  simp only [hbindings, Option.mem_toList, Option.mem_def]

theorem bindsIdentifiers_directory_iff
    (henums : ∀ enum ∈ schema.writtenEnums, isPlainName enum.name = true)
    (h : schema.declarations = .ok d) {resolution : Resolution} :
    (∀ m ∈ d.directory resolution, m.BindsIdentifiers) ↔ schema.SpellsTables := by
  rw [Declarations.directory_eq, List.forall_mem_append, List.forall_mem_map,
    List.forall_mem_singleton, Module.bindsIdentifiers_schemaRoot_iff, List.forall_mem_map]
  constructor
  · rintro ⟨hdeclared, -⟩ model hmodel
    obtain ⟨one, hone, htable⟩ := exists_table h hmodel
    exact (bindsIdentifiers_moduleOf_iff h hone).mp (hdeclared one hone) _ (table_named htable).2
  · intro htables
    have hidentifiers := identifiers_of_mem_modular henums htables h
    exact ⟨fun one hone => (bindsIdentifiers_moduleOf_iff h hone).mpr (hidentifiers one hone).1,
      fun one hone => (hidentifiers one hone).2⟩

theorem bindsIdentifiers_singleFile_iff
    (henums : ∀ enum ∈ schema.writtenEnums, isPlainName enum.name = true)
    (h : schema.declarations = .ok d) {resolution : Resolution} {stem : String} :
    (d.singleFile resolution stem).BindsIdentifiers ↔ schema.SpellsTables := by
  have hschema : isIdentifier Module.schemaName = true := by decide
  have hnamed : ∀ r ∈ (d.singleFile resolution stem).imports, r.isNamed = true := by
    have hrequired : ∀ required ∈ d.fileRequirements, required.isNamed = true := by
      intro required hmem
      obtain ⟨-, one, hone, himports⟩ := Declarations.mem_fileRequirements.mp hmem
      exact isNamed_of_mem_imports h one hone required himports
    exact fun r hr => Requirement.isNamed_of_mem_merge hrequired hr
  rw [Module.bindsIdentifiers_iff_of_named hnamed, bindings_singleFile h, List.forall_mem_append,
    List.forall_mem_singleton, and_iff_left hschema]
  constructor
  · intro hbindings model hmodel
    exact hbindings _ (mem_names.mpr (.inr (.inl ⟨model, hmodel, rfl⟩)))
  · intro htables name hname
    rcases mem_names.mp hname with ⟨enum, henum, rfl⟩ | ⟨model, hmodel, rfl⟩ | ⟨model, hmodel, rfl⟩
    · exact isIdentifier_enumBinding (spellable_lowerCamel_of_isPlainName (henums enum henum))
    · exact htables model hmodel
    · exact isIdentifier_relationsBinding (htables model (mem_related.mp hmodel).1)

theorem isIdentifier_joinTable_iff {link : ManyToMany} {join : JoinTable}
    (h : link.joinTable = .ok join) : isIdentifier (tableBinding join.table.name) = true ↔
      Spellable (lowerCamel link.relation.toList) := by
  have hname : join.table.name.toList = '_' :: link.relation.toList := by
    simp [ManyToMany.table_name h]
  rw [isIdentifier_tableBinding_iff, hname, lowerCamel_cons (by decide)]

theorem spellsTables_iff {config : Config} {datamodel : Datamodel}
    (hnames : ∀ model ∈ datamodel.models, isPlainName model.name = true)
    (h : ofDatamodel config datamodel = .ok schema) : schema.SpellsTables ↔
      ∀ link : ManyToMany, link.IsLink datamodel.models →
        Spellable (lowerCamel link.relation.toList) := by
  obtain ⟨joins, hjoins, rfl, -⟩ := ofDatamodel_eq_ok.mp h
  obtain ⟨links, hlinks⟩ := JoinTable.ofModels_realizes hjoins
  constructor
  · intro htables link hlink
    obtain ⟨taken, htaken, hsame⟩ := hlinks.complete link hlink
    obtain ⟨join, hmem, htable⟩ := hlinks.exists_join htaken
    rw [← hsame]
    exact (isIdentifier_joinTable_iff htable).mp
      (htables _ (List.mem_append_right _ (List.mem_map.mpr ⟨join, hmem, rfl⟩)))
  · intro hspellable model hmodel
    rcases List.mem_append.mp hmodel with hmodel | hmodel
    · obtain ⟨input, hinput, rfl⟩ := List.mem_map.mp hmodel
      rw [JoinTable.turnModel_name]
      exact isIdentifier_tableBinding_iff.mpr
        (spellable_lowerCamel_of_isPlainName (hnames input hinput))
    · obtain ⟨join, hmem, rfl⟩ := List.mem_map.mp hmodel
      obtain ⟨link, hlink, htable⟩ := hlinks.exists_link hmem
      exact (isIdentifier_joinTable_iff htable).mpr (hspellable link (hlinks.sound link hlink))

end Schema

namespace Datamodel

structure PlainlyNamed (datamodel : Datamodel) : Prop where
  models : ∀ model ∈ datamodel.models, isPlainName model.name = true
  enums : ∀ enum ∈ datamodel.enums, isPlainName enum.name = true

theorem plainlyNamed_iff {datamodel : Datamodel} : datamodel.PlainlyNamed ↔
    (∀ model ∈ datamodel.models, isPlainName model.name = true) ∧
      ∀ enum ∈ datamodel.enums, isPlainName enum.name = true :=
  ⟨fun h => ⟨h.models, h.enums⟩, fun ⟨models, enums⟩ => ⟨models, enums⟩⟩

instance (datamodel : Datamodel) : Decidable datamodel.PlainlyNamed :=
  decidable_of_iff _ plainlyNamed_iff.symm

end Datamodel

theorem modules_bindsIdentifiers_iff {config : Config} {datamodel : Datamodel}
    {modules : List Module} (hnames : datamodel.PlainlyNamed)
    (h : datamodel.modules config = .ok modules) :
    (∀ m ∈ modules, m.BindsIdentifiers) ↔
      ∀ link : ManyToMany, link.IsLink datamodel.models →
        Spellable (lowerCamel link.relation.toList) := by
  obtain ⟨schema, d, hschema, hd, rfl⟩ := Datamodel.modules_eq_ok.mp h
  have henums : ∀ enum ∈ schema.writtenEnums, isPlainName enum.name = true := by
    obtain ⟨joins, -, rfl, -⟩ := Schema.ofDatamodel_eq_ok.mp hschema
    exact fun enum henum => hnames.enums enum (Schema.mem_writtenEnums.mp henum).2
  rw [← Schema.spellsTables_iff hnames.models hschema, Declarations.modules]
  cases config.outputMode with
  | directory => exact Schema.bindsIdentifiers_directory_iff henums hd
  | singleFile stem =>
    rw [List.forall_mem_singleton]
    exact Schema.bindsIdentifiers_singleFile_iff henums hd

def postTags (relation : String) : Datamodel where
  models := [
    { name := "Post", fields := [
      { name := "id", type := "Int", isId := true },
      { name := "tags", kind := .object, type := "Tag", isList := true,
        relationName := some relation }] },
    { name := "Tag", fields := [
      { name := "id", type := "Int", isId := true },
      { name := "posts", kind := .object, type := "Post", isList := true,
        relationName := some relation }] }]

theorem postTags_bindsIdentifiers : (postTags "tags (all)").PlainlyNamed ∧
    ∃ modules, (postTags "tags (all)").modules (Config.ofDialect .postgres) = .ok modules ∧
      ∀ m ∈ modules, m.BindsIdentifiers := by
  have hnames : (postTags "tags (all)").PlainlyNamed := by decide
  have hrelations : ∀ model ∈ (postTags "tags (all)").models, ∀ field ∈ model.relationFields,
      Spellable (lowerCamel field.relation.name.toList) := by
    decide
  have hwritten : ((postTags "tags (all)").modules (Config.ofDialect .postgres)).isOk = true := by
    decide
  obtain ⟨modules, h⟩ := exists_of_isOk hwritten
  refine ⟨hnames, modules, h, (modules_bindsIdentifiers_iff hnames h).mpr fun link hlink => ?_⟩
  exact hrelations link.model hlink.model_mem link.field hlink.field_mem

theorem postTags_not_bindsIdentifiers : (postTags "1st").PlainlyNamed ∧
    (∀ model ∈ (postTags "1st").models, ∀ field ∈ model.fields, isPlainName field.name = true) ∧
    ∃ modules, (postTags "1st").modules (Config.ofDialect .postgres) = .ok modules ∧
      ∃ m ∈ modules, ¬ m.BindsIdentifiers := by
  have hbound : ((postTags "1st").modules (Config.ofDialect .postgres)).toOption.any
      (fun modules => modules.any fun m => m.bindings.contains "1sts") = true := by
    decide
  obtain ⟨modules, h, hbound⟩ := exists_of_any hbound
  obtain ⟨m, hm, hbound⟩ := List.any_eq_true.mp hbound
  refine ⟨by decide, by decide, modules, h, m, hm, fun hidentifiers => ?_⟩
  exact absurd (hidentifiers.declared "1sts" (List.contains_iff_mem.mp hbound)) (by decide)

end SchemaWriter
