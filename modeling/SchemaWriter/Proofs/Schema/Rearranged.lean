import SchemaWriter.Proofs.Relation.Rearranged
import SchemaWriter.Proofs.Schema.RelationNames

namespace SchemaWriter

open Outcome

theorem Field.resolve_congr {models others : List Model}
    (h : ∀ name, findModel? models name = findModel? others name) (model : Model) (field : Field) :
    field.resolve models model = field.resolve others model := by
  simp only [resolve, h]

namespace Schema

structure Rearranges (schema other : Schema) : Prop where
  config : schema.config = other.config
  models : schema.models.Perm other.models
  joins : schema.joins.Perm other.joins
  enums : schema.enums.Perm other.enums
  found : ∀ name, schema.findModel? name = other.findModel? name

namespace Rearranges

variable {schema other : Schema}

theorem mem_allModels (h : schema.Rearranges other) {model : Model} :
    model ∈ schema.allModels ↔ model ∈ other.allModels :=
  (h.models.append h.joins).mem_iff

theorem resolved (h : schema.Rearranges other) (hresolved : schema.Resolved) : other.Resolved := by
  intro model hmodel field hfield
  obtain ⟨related, hrelated⟩ := hresolved model (h.mem_allModels.mpr hmodel) field hfield
  exact ⟨related, (Field.resolve_congr h.found model field).symm.trans hrelated⟩

theorem needsName (h : schema.Rearranges other) (model : Model) (field : Field) :
    schema.needsName model field = other.needsName model field := by
  rw [Bool.eq_iff_iff, needsName_iff, needsName_iff]
  simp only [SeverallyRelated, h.mem_allModels]

theorem relationEntry (h : schema.Rearranges other) (model related : Model) (field : Field) :
    schema.relationEntry model related field = other.relationEntry model related field := by
  have hname : schema.nameOption model field = other.nameOption model field := by
    rw [nameOption, nameOption, h.needsName]
  simp only [Schema.relationEntry, hname]

theorem relationEntries (h : schema.Rearranges other) (model : Model) (fields : List Field) :
    schema.relationEntries model fields = other.relationEntries model fields := by
  induction fields with
  | nil => rfl
  | cons field rest ih =>
    have hresolve : schema.resolve model field = other.resolve model field := by
      rw [resolve, resolve, Field.resolve_congr h.found]
    simp only [Schema.relationEntries, hresolve, h.relationEntry, ih]

theorem declareTable (h : schema.Rearranges other) (model : Model) :
    schema.declareTable model = other.declareTable model := by
  rw [Schema.declareTable, Schema.declareTable, h.config]

theorem declareRelations? (h : schema.Rearranges other) (model : Model) :
    schema.declareRelations? model = other.declareRelations? model := by
  simp only [Schema.declareRelations?, relations?, h.config, h.relationEntries]

theorem exists_declareTables (h : schema.Rearranges other) {models others : List Model}
    (hperm : models.Perm others) {tables : List Declared}
    (htables : schema.declareTables models = .ok tables) :
    ∃ tables', other.declareTables others = .ok tables' ∧ tables.Perm tables' := by
  rw [declareTables_eq_ok] at htables
  simp only [h.declareTable] at htables
  obtain ⟨tables', hforall, hperm'⟩ := List.perm_comp_forall₂ hperm.symm htables
  exact ⟨tables', declareTables_eq_ok.mpr hforall, hperm'.symm⟩

theorem exists_declareAllRelations (h : schema.Rearranges other) {models others : List Model}
    (hperm : models.Perm others) {relations : List Declared}
    (hrelations : schema.declareAllRelations models = .ok relations) :
    ∃ relations', other.declareAllRelations others = .ok relations' ∧
      relations.Perm relations' := by
  obtain ⟨found, hfound, rfl⟩ := declareAllRelations_eq_ok.mp hrelations
  simp only [h.declareRelations?] at hfound
  obtain ⟨found', hforall, hperm'⟩ := List.perm_comp_forall₂ hperm.symm hfound
  exact ⟨_, declareAllRelations_eq_ok.mpr ⟨found', hforall, rfl⟩, hperm'.symm.flatMap_right _⟩

theorem exists_declareJoins (h : schema.Rearranges other) {models others : List Model}
    (hperm : models.Perm others) {joins : List DeclaredJoin}
    (hjoins : schema.declareJoins models = .ok joins) :
    ∃ joins', other.declareJoins others = .ok joins' ∧ joins.Perm joins' := by
  rw [declareJoins_eq_ok] at hjoins
  simp only [h.declareTable, h.declareRelations?] at hjoins
  obtain ⟨joins', hforall, hperm'⟩ := List.perm_comp_forall₂ hperm.symm hjoins
  exact ⟨joins', declareJoins_eq_ok.mpr hforall, hperm'.symm⟩

theorem declareEnums_perm (h : schema.Rearranges other) :
    schema.declareEnums.Perm other.declareEnums := by
  rw [declareEnums, declareEnums, h.config]
  exact h.enums.filterMap _

theorem exists_declarations (h : schema.Rearranges other) {d : Declarations}
    (hd : schema.declarations = .ok d) :
    ∃ d', other.declarations = .ok d' ∧ d.modular.Perm d'.modular := by
  obtain ⟨htables, hrelations, hjoins, henums⟩ := declarations_eq_ok.mp hd
  obtain ⟨tables, htables, hpermTables⟩ := h.exists_declareTables h.models htables
  obtain ⟨relations, hrelations, hpermRelations⟩ :=
    h.exists_declareAllRelations h.models hrelations
  obtain ⟨joins, hjoins, hpermJoins⟩ := h.exists_declareJoins h.joins hjoins
  refine ⟨⟨tables, other.declareEnums, relations, joins⟩,
    declarations_eq_ok.mpr ⟨htables, hrelations, hjoins, rfl⟩, ?_⟩
  rw [Declarations.modular, henums]
  exact ((hpermTables.append h.declareEnums_perm).append hpermRelations).append
    (hpermJoins.flatMap_right _)

end Rearranges

theorem rearranges_joined (config : Config) {datamodel rearranged : Datamodel}
    (hdistinct : datamodel.Distinct) (hnames : datamodel.PairsNames)
    (hmodels : datamodel.models.Perm rearranged.models)
    (henums : datamodel.enums.Perm rearranged.enums) {links links' : List ManyToMany}
    {joins joins' : List JoinTable} (h : JoinTable.Realizes datamodel.models links joins)
    (h' : JoinTable.Realizes rearranged.models links' joins') :
    (joined config datamodel joins).Rearranges (joined config rearranged joins') := by
  have hback := h'.of_perm hmodels.symm (hdistinct.of_perm hmodels).models
  have htables := h.tables_perm hback hdistinct hnames
  have hturned : (datamodel.models.map (JoinTable.turnModel joins)).Perm
      (rearranged.models.map (JoinTable.turnModel joins')) := by
    rw [List.map_congr_left fun model hmodel =>
      h.turnModel_eq_turnModel hback hdistinct hnames hmodel]
    exact hmodels.map _
  refine ⟨rfl, hturned, htables, henums, fun name => ?_⟩
  have hnodup : ((datamodel.models.map (JoinTable.turnModel joins)).map Model.name).Nodup := by
    rw [List.map_map]
    exact hdistinct.models
  rw [findModel?, findModel?, allModels, allModels, findModel?_append, findModel?_append]
  exact congrArg₂ Option.or (findModel?_perm hturned hnodup name)
    (findModel?_perm htables h.nodup_table_names name)

theorem exists_rearranges {config : Config} {datamodel rearranged : Datamodel}
    (hdistinct : datamodel.Distinct) (hnames : datamodel.PairsNames)
    (hmodels : datamodel.models.Perm rearranged.models)
    (henums : datamodel.enums.Perm rearranged.enums) {schema : Schema}
    (h : ofDatamodel config datamodel = .ok schema) :
    ∃ other, ofDatamodel config rearranged = .ok other ∧ schema.Rearranges other := by
  obtain ⟨joins, hjoins, rfl, hresolved⟩ := ofDatamodel_eq_ok.mp h
  obtain ⟨links, hlinks⟩ := JoinTable.ofModels_realizes hjoins
  obtain ⟨joins', hjoins'⟩ := (hlinks.of_perm hmodels hdistinct.models).exists_ofModels
    (hdistinct.of_perm hmodels) (hnames.of_perm hmodels)
  obtain ⟨links', hlinks'⟩ := JoinTable.ofModels_realizes hjoins'
  have hrearranges := rearranges_joined config hdistinct hnames hmodels henums hlinks hlinks'
  exact ⟨_, ofDatamodel_eq_ok.mpr ⟨joins', hjoins', rfl, hrearranges.resolved hresolved⟩,
    hrearranges⟩

end Schema

end SchemaWriter
