import SchemaWriter.Proofs.Module.Closed
import SchemaWriter.Proofs.Schema.References
import SchemaWriter.Proofs.Schema.Sequence
import SchemaWriter.Proofs.Schema.Settings

namespace SchemaWriter

open Outcome

inductive Part where
  | table (model : Model)
  | enum (enum : EnumType)
  | relations (model : Model)

namespace Part

def isRelations : Part → Bool
  | .relations _ => true
  | _ => false

def ofRelations (query : Bool) (model : Model) : List Part :=
  if query && !model.relationFields.isEmpty then [.relations model] else []

theorem ofRelations_false (model : Model) :
    ofRelations false model = (ofRelations true model).filter (!·.isRelations) := by
  cases hfields : model.relationFields.isEmpty <;> simp [ofRelations, isRelations, hfields]

end Part

namespace Schema

def layout (schema : Schema) (query : Bool) : List Part :=
  schema.models.map .table ++ schema.writtenEnums.map .enum ++
    schema.models.flatMap (Part.ofRelations query) ++
    schema.joins.flatMap fun join => .table join :: Part.ofRelations query join

theorem layout_false (schema : Schema) :
    schema.layout false = (schema.layout true).filter (!·.isRelations) := by
  have htables : (schema.models.map Part.table).filter (!·.isRelations) =
      schema.models.map .table := by
    simp [List.filter_map, Part.isRelations, Function.comp_def]
  have henums : (schema.writtenEnums.map Part.enum).filter (!·.isRelations) =
      schema.writtenEnums.map .enum := by
    simp [List.filter_map, Part.isRelations, Function.comp_def]
  have hjoin : ∀ join, (Part.table join :: Part.ofRelations true join).filter (!·.isRelations) =
      .table join :: Part.ofRelations false join := by
    intro join
    rw [List.filter_cons_of_pos rfl, Part.ofRelations_false]
  simp only [layout, List.filter_append, List.filter_flatMap, htables, henums, hjoin,
    ← Part.ofRelations_false]

def Declares (schema : Schema) : Part → Declared → Prop
  | .table model, one => schema.declareTable model = .ok one
  | .enum enum, one => ∃ fragment, enum.declaration? schema.config.dialect = some fragment ∧
      ⟨Naming.enumModule enum.name, fragment⟩ = one
  | .relations model, one => ∃ fragment, schema.relations? model = .ok (some fragment) ∧
      ⟨Naming.relationsModule model.name, fragment⟩ = one

theorem rightUnique_declares (schema : Schema) : Relator.RightUnique schema.Declares := by
  intro part one other hone hother
  cases part with
  | table model => exact Except.ok.inj (hone.symm.trans hother)
  | enum enum =>
    obtain ⟨fragment, hfragment, rfl⟩ := hone
    obtain ⟨fragment', hfragment', rfl⟩ := hother
    rw [Option.some.inj (hfragment.symm.trans hfragment')]
  | relations model =>
    obtain ⟨fragment, hfragment, rfl⟩ := hone
    obtain ⟨fragment', hfragment', rfl⟩ := hother
    rw [Option.some.inj (Except.ok.inj (hfragment.symm.trans hfragment'))]

theorem isSome_relations?_of_declares {schema : Schema} {part : Part} {one : Declared}
    (h : schema.Declares part one) : one.declaration.relations?.isSome = part.isRelations := by
  cases part with
  | table model =>
    obtain ⟨table, htable, rfl⟩ := declareTable_eq_ok.mp h
    obtain ⟨columns, key, -, -, rfl⟩ := Model.declaration_eq_ok.mp htable
    rw [Model.relations?_tableFragment]
    rfl
  | enum enum =>
    obtain ⟨fragment, hfragment, rfl⟩ := h
    rw [(EnumType.shape_of_declaration? hfragment).2]
    rfl
  | relations model =>
    obtain ⟨fragment, hfragment, rfl⟩ := h
    obtain ⟨entries, -, -, rfl⟩ := relations?_eq_some.mp hfragment
    rw [relations?_relationsFragment]
    rfl

theorem declares_under {schema : Schema} {config : Config}
    (hdialect : schema.config.dialect = config.dialect)
    (hmode : schema.config.dateMode = config.dateMode) :
    (schema.under config).Declares = schema.Declares := by
  funext part one
  cases part with
  | table model => rw [Declares, Declares, declareTable_under hdialect hmode]
  | enum enum => rw [Declares, Declares, config_under, hdialect]
  | relations model => rw [Declares, Declares, relations?_under]

theorem forall₂_ofRelations {schema : Schema} {model : Model} {option : Option Declared}
    (h : schema.declareRelations? model = .ok option) :
    List.Forall₂ schema.Declares (Part.ofRelations schema.config.relationalQuery model)
      option.toList := by
  rw [Part.ofRelations, isSome_of_declareRelations? h]
  cases option with
  | none => exact .nil
  | some one => exact .cons (declareRelations?_eq_some.mp h).2 .nil

theorem forall₂_layout {schema : Schema} {d : Declarations} (h : schema.declarations = .ok d) :
    List.Forall₂ schema.Declares (schema.layout schema.config.relationalQuery) d.modular := by
  obtain ⟨htables, hrelations, hjoins, henums⟩ := declarations_eq_ok.mp h
  obtain ⟨found, hfound, hflat⟩ := declareAllRelations_eq_ok.mp hrelations
  have htables := declareTables_eq_ok.mp htables
  have hjoins := declareJoins_eq_ok.mp hjoins
  rw [layout, Declarations.modular, henums, ← hflat]
  refine List.rel_append (List.rel_append (List.rel_append ?_ ?_) ?_) ?_
  · exact List.forall₂_map_left_iff.mpr htables
  · exact List.forall₂_map_left_iff.mpr schema.declareEnums_forall₂
  · exact List.rel_flatMap hfound fun _ _ => forall₂_ofRelations
  · refine List.rel_flatMap hjoins ?_
    rintro _ _ ⟨htable, hrelations⟩
    exact .cons htable (forall₂_ofRelations hrelations)

def WrittenIn (schema : Schema) (resolution : Resolution) (part : Part) (m : Module) : Prop :=
  ∃ one, schema.Declares part one ∧ Declarations.moduleOf resolution one = m

theorem rightUnique_writtenIn (schema : Schema) (resolution : Resolution) :
    Relator.RightUnique (schema.WrittenIn resolution) := by
  rintro part _ _ ⟨one, hone, rfl⟩ ⟨other, hother, rfl⟩
  rw [schema.rightUnique_declares hone hother]

end Schema

def Module.declaresRelations (m : Module) : Bool :=
  m.declarations.any (·.relations?.isSome)

theorem Schema.WrittenIn.declaresRelations {schema : Schema} {resolution : Resolution} {part : Part}
    {m : Module} (h : schema.WrittenIn resolution part m) :
    m.declaresRelations = part.isRelations := by
  obtain ⟨one, hone, rfl⟩ := h
  simpa [Module.declaresRelations, Declarations.moduleOf, Module.assemble] using
    isSome_relations?_of_declares hone

structure Schema.Arranges (schema : Schema) (resolution : Resolution) (parts : List Part)
    (front : List Module) (root : Module) : Prop where
  written : List.Forall₂ (schema.WrittenIn resolution) parts front
  root_name : root.name = Module.schemaName
  root_spreads : root.declarations = [Module.schemaDeclaration
    (front.map fun m => .spread (.verbatim (Naming.moduleAlias m.name)))]

def Config.querying (config : Config) (query : Bool) : Config :=
  { config with relationalQuery := query }

def Model.outline (model : Model) : String × List String :=
  (model.name, model.relationFields.map (·.name))

namespace Schema

variable {config : Config} {datamodel : Datamodel} {schema : Schema}

theorem outline_of_ofDatamodel (h : ofDatamodel config datamodel = .ok schema) :
    schema.models.map Model.outline = datamodel.models.map Model.outline := by
  obtain ⟨joins, -, rfl, -⟩ := ofDatamodel_eq_ok.mp h
  rw [joined, List.map_map]
  congr 1
  funext model
  simp [Model.outline, JoinTable.relationFields_turnModel, Function.comp_def]

theorem relationFields_ne_nil_of_join (h : ofDatamodel config datamodel = .ok schema)
    {join : Model} (hjoin : join ∈ schema.joins) : join.relationFields ≠ [] := by
  obtain ⟨joins, hjoins, rfl, -⟩ := ofDatamodel_eq_ok.mp h
  obtain ⟨links, hlinks⟩ := JoinTable.ofModels_realizes hjoins
  obtain ⟨made, hmade, rfl⟩ := List.mem_map.mp hjoin
  obtain ⟨link, -, htable⟩ := hlinks.exists_link hmade
  obtain ⟨aId, bId, -, -, htable⟩ := ManyToMany.joinTable_eq_ok.mp htable
  have hholder : ManyToMany.holderField (ManyToMany.sideFields link.sides.1 link.sides.2).1
      link.sides.1.name link.sideRelations.1 "A" aId.name ∈ made.table.relationFields := by
    rw [Model.mem_relationFields, ← htable]
    exact ⟨ManyToMany.mem_table_fields.mpr (.inr (.inr (.inl rfl))), rfl⟩
  exact List.ne_nil_of_mem hholder

theorem exists_arranges (hdirectory : config.outputMode = .directory)
    (hschema : ofDatamodel config datamodel = .ok schema) {query : Bool} {modules : List Module}
    (h : datamodel.modules (config.querying query) = .ok modules) :
    ∃ front root, modules = front ++ [root] ∧
      schema.Arranges config.resolution (schema.layout query) front root := by
  obtain ⟨queried, d, hqueried, hd, rfl⟩ := Datamodel.modules_eq_ok.mp h
  rw [ofDatamodel_under config, hschema] at hqueried
  obtain rfl := config_of_ofDatamodel hschema
  obtain rfl : schema.under (schema.config.querying query) = queried := Except.ok.inj hqueried
  have hdeclares : (schema.under (schema.config.querying query)).Declares = schema.Declares :=
    declares_under rfl rfl
  have hwritten := forall₂_layout hd
  rw [hdeclares] at hwritten
  have hmode : (schema.config.querying query).outputMode = .directory := hdirectory
  rw [Declarations.modules, hmode]
  refine ⟨_, _, Declarations.directory_eq _ d, ?_, rfl, rfl⟩
  exact List.forall₂_map_right_iff.mpr (hwritten.imp fun _ one hone => ⟨one, hone, rfl⟩)

end Schema

theorem modules_layout {config : Config} {datamodel : Datamodel} {modules : List Module}
    (hdirectory : config.outputMode = .directory) (h : datamodel.modules config = .ok modules) :
    ∃ schema written root silent silentRoot,
      Schema.ofDatamodel config datamodel = .ok schema ∧
      datamodel.modules (config.querying true) = .ok (written ++ [root]) ∧
      datamodel.modules (config.querying false) = .ok (silent ++ [silentRoot]) ∧
      silent = written.filter (!·.declaresRelations) ∧
      schema.Arranges config.resolution (schema.layout true) written root ∧
      schema.Arranges config.resolution (schema.layout false) silent silentRoot ∧
      schema.models.map Model.outline = datamodel.models.map Model.outline ∧
      schema.enums = datamodel.enums ∧ ∀ join ∈ schema.joins, join.relationFields ≠ [] := by
  obtain ⟨schema, d, hschema, -, -⟩ := Datamodel.modules_eq_ok.mp h
  have hrun : ∀ query, ∃ modules, datamodel.modules (config.querying query) = .ok modules := by
    intro query
    have hdialect : config.dialect = (config.querying query).dialect := rfl
    exact (Datamodel.alike_modules hdialect datamodel).exists_ok ⟨modules, h⟩
  obtain ⟨_, hon⟩ := hrun true
  obtain ⟨_, hoff⟩ := hrun false
  obtain ⟨written, root, rfl, hwritten⟩ := Schema.exists_arranges hdirectory hschema hon
  obtain ⟨silent, silentRoot, rfl, hsilent⟩ := Schema.exists_arranges hdirectory hschema hoff
  have hkept : List.Forall₂ (schema.WrittenIn config.resolution) (schema.layout false)
      (written.filter (!·.declaresRelations)) := by
    have hkind : ∀ part m, schema.WrittenIn config.resolution part m →
        ((!part.isRelations) = true ↔ (!m.declaresRelations) = true) := by
      intro part m hm
      rw [hm.declaresRelations]
    rw [schema.layout_false]
    exact List.rel_filter hkind hwritten.written
  have hsame : silent = written.filter (!·.declaresRelations) :=
    (schema.rightUnique_writtenIn config.resolution).forall₂ hsilent.written hkept
  obtain ⟨joins, -, hjoined, -⟩ := Schema.ofDatamodel_eq_ok.mp hschema
  exact ⟨schema, written, root, silent, silentRoot, hschema, hon, hoff, hsame, hwritten, hsilent,
    Schema.outline_of_ofDatamodel hschema, by rw [hjoined]; rfl,
    fun _ => Schema.relationFields_ne_nil_of_join hschema⟩

theorem rolePosts_layout :
    (Config.ofDialect .postgres).outputMode = .directory ∧
    ((rolePosts "role").modules (Config.ofDialect .postgres)).isOk = true ∧
    ∃ schema written root silent silentRoot,
      Schema.ofDatamodel (Config.ofDialect .postgres) (rolePosts "role") = .ok schema ∧
      (rolePosts "role").modules ((Config.ofDialect .postgres).querying true) =
        .ok (written ++ [root]) ∧
      (rolePosts "role").modules ((Config.ofDialect .postgres).querying false) =
        .ok (silent ++ [silentRoot]) ∧
      silent = written.filter (!·.declaresRelations) ∧
      schema.Arranges .bundler (schema.layout true) written root ∧
      schema.Arranges .bundler (schema.layout false) silent silentRoot := by
  have hdirectory : (Config.ofDialect .postgres).outputMode = .directory := by decide
  have hwritten : ((rolePosts "role").modules (Config.ofDialect .postgres)).isOk = true := by
    decide
  obtain ⟨modules, h⟩ := exists_of_isOk hwritten
  obtain ⟨schema, written, root, silent, silentRoot, hschema, hon, hoff, hsame, harranged,
    hrearranged, -⟩ := modules_layout hdirectory h
  exact ⟨hdirectory, hwritten, schema, written, root, silent, silentRoot, hschema, hon, hoff,
    hsame, harranged, hrearranged⟩

end SchemaWriter
