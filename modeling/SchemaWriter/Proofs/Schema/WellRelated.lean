import SchemaWriter.Proofs.Relation.Pairing

namespace SchemaWriter

open Outcome

namespace Model

theorem exists_idField? {model : Model} (h : model.fields.countP (·.isId) = 1) :
    ∃ id, model.idField? = some id := by
  rw [List.countP_eq_length_filter, List.length_eq_one_iff] at h
  obtain ⟨id, hid⟩ := h
  exact ⟨id, by rw [idField?, hid]⟩

end Model

namespace Datamodel

def IdsAreColumns (datamodel : Datamodel) : Prop :=
  ∀ model ∈ datamodel.models, ∀ field ∈ model.fields, field.isId = true → field.kind ≠ .object

structure WellRelated (datamodel : Datamodel) : Prop where
  ids : ∀ model ∈ datamodel.models, ∀ field ∈ model.fields, field.isId = true →
    field.kind ≠ .object
  known : ∀ model ∈ datamodel.models, ∀ field ∈ model.relationFields,
    ∃ related ∈ datamodel.models, related.name = field.type
  lengths : ∀ model ∈ datamodel.models, ∀ field ∈ model.relationFields,
    field.relation.isHolder = true →
      field.relationFromFields.length = field.relationToFields.length
  own_columns : ∀ model ∈ datamodel.models, ∀ field ∈ model.relationFields,
    field.relation.isHolder = true → ∀ name ∈ field.relationFromFields,
      ∃ column ∈ model.fields, column.name = name ∧ column.kind ≠ .object
  related_columns : ∀ model ∈ datamodel.models, ∀ field ∈ model.relationFields,
    field.relation.isHolder = true → ∀ related ∈ datamodel.models, related.name = field.type →
      ∀ name ∈ field.relationToFields,
        ∃ column ∈ related.fields, column.name = name ∧ column.kind ≠ .object
  opposites : ∀ model ∈ datamodel.models, ∀ field ∈ model.relationFields,
    field.relation.isHolder = false → ∀ related ∈ datamodel.models, related.name = field.type →
      ∃ opposite, field.opposite? model related = some opposite
  single_ids : ∀ link : ManyToMany, link.IsLink datamodel.models →
    link.model.fields.countP (·.isId) = 1 ∧ link.related.fields.countP (·.isId) = 1

variable {datamodel : Datamodel}

theorem Distinct.hasColumn (h : datamodel.Distinct) {model : Model} (hmodel : model ∈ datamodel.models)
    {name : String} (hcolumn : ∃ column ∈ model.fields, column.name = name ∧ column.kind ≠ .object) :
    model.hasColumn name = true := by
  obtain ⟨column, hmem, rfl, hkind⟩ := hcolumn
  exact Model.hasColumn_iff.mpr ⟨column, h.field? hmodel hmem, hkind⟩

theorem WellRelated.exists_resolve (h : datamodel.WellRelated) (hdistinct : datamodel.Distinct)
    {model : Model} (hmodel : model ∈ datamodel.models) {field : Field}
    (hfield : field ∈ model.relationFields) :
    ∃ related ∈ datamodel.models, field.resolve datamodel.models model = .ok related := by
  obtain ⟨related, hrelated, hname⟩ := h.known model hmodel field hfield
  refine ⟨related, hrelated, Field.resolve_eq_ok.mpr ⟨?_, fun hholder => ⟨?_, ?_, ?_⟩, ?_⟩⟩
  · rw [← hname]
    exact hdistinct.findModel? hrelated
  · exact h.lengths model hmodel field hfield hholder
  · intro name hmem
    exact hdistinct.hasColumn hmodel (h.own_columns model hmodel field hfield hholder name hmem)
  · intro name hmem
    exact hdistinct.hasColumn hrelated
      (h.related_columns model hmodel field hfield hholder related hrelated hname name hmem)
  · exact fun hopen => h.opposites model hmodel field hfield hopen related hrelated hname

end Datamodel

theorem ManyToMany.exists_ofField? {models : List Model} {model related : Model} {field : Field}
    (h : field.resolve models model = .ok related) :
    ∃ found, ofField? models model field = .ok found := by
  obtain ⟨hfound, -, hopposite⟩ := Field.resolve_eq_ok.mp h
  unfold ofField?
  split
  · exact ⟨none, rfl⟩
  · rename_i hopen
    simp only [Bool.or_eq_true, not_or, Bool.not_eq_true] at hopen
    obtain ⟨other, hother⟩ := hopposite hopen.2
    simp only [hfound, hother]
    split <;> exact ⟨_, rfl⟩

theorem ManyToMany.hasColumn_table (link : ManyToMany) {aId bId : Field}
    (ha : aId.kind ≠ .object) (hb : bId.kind ≠ .object) :
    (link.table aId bId).hasColumn "A" = true ∧ (link.table aId bId).hasColumn "B" = true := by
  simp [Model.hasColumn, Model.field?, table_fields, keyColumn, Field.isRelation, ha, hb]

theorem ManyToMany.exists_joinTable {link : ManyToMany}
    (hmodel : ∃ id, link.model.idField? = some id)
    (hrelated : ∃ id, link.related.idField? = some id) : ∃ join, link.joinTable = .ok join := by
  obtain ⟨⟨aId, ha⟩, bId, hb⟩ :=
    forall_sides (P := fun side => ∃ id, side.idField? = some id) hmodel hrelated
  exact ⟨_, joinTable_eq_ok.mpr ⟨aId, bId, ha, hb, rfl⟩⟩

theorem Datamodel.WellRelated.exists_ofModels {datamodel : Datamodel} (h : datamodel.WellRelated)
    (hdistinct : datamodel.Distinct) : ∃ joins, JoinTable.ofModels datamodel.models = .ok joins := by
  refine JoinTable.exists_ofModels (fun model hmodel field hfield => ?_) fun link hlink => ?_
  · obtain ⟨related, -, hresolve⟩ := h.exists_resolve hdistinct hmodel hfield
    exact ManyToMany.exists_ofField? hresolve
  · obtain ⟨hmodel, hrelated⟩ := h.single_ids link hlink
    exact ManyToMany.exists_joinTable (Model.exists_idField? hmodel) (Model.exists_idField? hrelated)

namespace JoinTable

variable {datamodel : Datamodel} {links : List ManyToMany} {joins : List JoinTable}

theorem hasColumn_turnModel (model : Model) (name : String) :
    (turnModel joins model).hasColumn name = model.hasColumn name := by
  rw [Model.hasColumn, Model.hasColumn, field?_turnModel]
  cases model.field? name <;> simp [Field.isRelation]

theorem Realizes.exists_serves (h : Realizes datamodel.models links joins)
    (hdistinct : datamodel.Distinct) (hseparate : datamodel.SeparatesTables) {model : Model}
    (hmodel : model ∈ datamodel.models) {field : Field} (hfield : field ∈ model.relationFields)
    (htakes : Takes joins model.name field.name) :
    ∃ made link, ∃ join ∈ joins, Serves datamodel links joins made join link ∧
      link.model = model ∧ link.field = field := by
  obtain ⟨made, hmade, link, hspans, hsame, hmodel, hfield⟩ :=
    h.exists_end hdistinct hmodel hfield htakes
  obtain ⟨join, hjoin, htable⟩ := h.exists_join hmade
  exact ⟨made, link, join, hjoin, ⟨h, hdistinct, hseparate, hmade, htable, hspans, hsame⟩,
    hmodel, hfield⟩

theorem Serves.findModel?_table {made link : ManyToMany} {join : JoinTable}
    (h : Serves datamodel links joins made join link) (config : Config) (hjoin : join ∈ joins) :
    (Schema.joined config datamodel joins).findModel? link.tableName = some join.table := by
  have hnone : findModel? (datamodel.models.map (turnModel joins)) link.tableName = none := by
    rw [findModel?_map (turnModel joins) fun _ => rfl, Option.map_eq_none_iff]
    refine List.find?_eq_none.mpr fun model hmodel => ?_
    simpa using (h.absent hmodel).symm
  have hsome : findModel? (joins.map (·.table)) link.tableName = some join.table := by
    refine find?_eq_some_of_unique (List.mem_map_of_mem hjoin) (by simpa using h.table_name) ?_
    intro table htable hname
    obtain ⟨other, hother, rfl⟩ := List.mem_map.mp htable
    have hname : other.table.name = made.tableName :=
      (of_decide_eq_true hname).trans (congrArg ("_" ++ ·) h.relation_eq.symm)
    rw [h.realizes.eq_of_table_name h.made_mem h.made_table hother hname]
  rw [Schema.findModel?, Schema.allModels, Schema.joined, findModel?_append, hnone, hsome]
  rfl

theorem Serves.exists_resolve_turned {made link : ManyToMany} {join : JoinTable}
    (h : Serves datamodel links joins made join link) (config : Config) (hjoin : join ∈ joins) :
    ∃ related, link.turned.resolve (Schema.joined config datamodel joins).allModels
      (turnModel joins link.model) = .ok related := by
  obtain ⟨id, -, hthere⟩ := h.exists_holder
  exact ⟨join.table, Field.resolve_eq_ok.mpr
    ⟨h.findModel?_table config hjoin, nofun, fun _ => ⟨link.holder id, hthere⟩⟩⟩

theorem Realizes.takes_of_opposite (h : Realizes datamodel.models links joins)
    (hdistinct : datamodel.Distinct) (hnames : datamodel.PairsNames) {model related : Model}
    (hmodel : model ∈ datamodel.models) (hrelated : related ∈ datamodel.models)
    {field opposite : Field} (hfield : field ∈ model.relationFields)
    (hopposite : field.opposite? model related = some opposite)
    (htakes : Takes joins related.name opposite.name) : Takes joins model.name field.name := by
  obtain ⟨hmem, hrelation, -⟩ := opposite?_eq_some hopposite
  obtain ⟨made, hmade, link, hspans, hsame, rfl, rfl⟩ :=
    h.exists_end hdistinct hrelated hmem htakes
  rcases hspans.end_of_relation hnames hmodel hfield (congrArg (·.getD "") hrelation.symm) with
    ⟨rfl, rfl⟩ | ⟨rfl, rfl⟩
  · exact htakes
  · exact h.takes_iff.mpr ⟨made, hmade, (ManyToMany.mem_ends_of_same hsame).mpr
      (List.mem_cons_of_mem _ List.mem_cons_self)⟩

theorem Realizes.exists_resolve_left (h : Realizes datamodel.models links joins)
    (hdistinct : datamodel.Distinct) (hnames : datamodel.PairsNames) (config : Config)
    {model related : Model} (hmodel : model ∈ datamodel.models)
    (hrelated : related ∈ datamodel.models) {field : Field}
    (hfield : field ∈ model.relationFields) (hleft : ¬ Takes joins model.name field.name)
    (hresolve : field.resolve datamodel.models model = .ok related) :
    field.resolve (Schema.joined config datamodel joins).allModels (turnModel joins model) =
      .ok (turnModel joins related) := by
  obtain ⟨hfound, hholder, hopen⟩ := Field.resolve_eq_ok.mp hresolve
  have hname := (findModel?_eq_some hfound).2
  refine Field.resolve_eq_ok.mpr ⟨?_, fun hkeys => ?_, fun hkeys => ?_⟩
  · rw [← hname]
    exact Schema.findModel?_joined config joins hdistinct hrelated
  · simpa only [hasColumn_turnModel] using hholder hkeys
  · obtain ⟨opposite, hopposite⟩ := hopen hkeys
    have hfree : ¬ Takes joins related.name opposite.name := fun htakes =>
      hleft (h.takes_of_opposite hdistinct hnames hmodel hrelated hfield hopposite htakes)
    have hmem : opposite ∈ (turnModel joins related).relationFields := by
      rw [relationFields_turnModel, List.mem_map]
      exact ⟨opposite, List.mem_of_find?_eq_some hopposite, turnField_eq_self hfree⟩
    exact Option.isSome_iff_exists.mp
      (List.find?_isSome.mpr ⟨opposite, hmem, List.find?_some hopposite⟩)

theorem exists_resolve_holderField (config : Config) (joins : List JoinTable)
    (hdistinct : datamodel.Distinct) {table side : Model} (hside : side ∈ datamodel.models)
    {name relation column id : String} (hcolumn : table.hasColumn column = true)
    (hid : side.hasColumn id = true) :
    ∃ related, (ManyToMany.holderField name side.name relation column id).resolve
      (Schema.joined config datamodel joins).allModels table = .ok related := by
  refine ⟨turnModel joins side, Field.resolve_eq_ok.mpr
    ⟨Schema.findModel?_joined config joins hdistinct hside, fun _ => ⟨rfl, ?_, ?_⟩, nofun⟩⟩
  · simpa [ManyToMany.holderField] using hcolumn
  · simpa [ManyToMany.holderField, hasColumn_turnModel] using hid

theorem Realizes.exists_resolve_table (h : Realizes datamodel.models links joins)
    (hdistinct : datamodel.Distinct) (hids : datamodel.IdsAreColumns) (config : Config)
    {join : JoinTable} (hjoin : join ∈ joins) {field : Field}
    (hfield : field ∈ join.table.relationFields) :
    ∃ related, field.resolve (Schema.joined config datamodel joins).allModels join.table =
      .ok related := by
  obtain ⟨link, hlink, htable⟩ := h.exists_link hjoin
  obtain ⟨aId, bId, ha, hb, rfl⟩ := ManyToMany.joinTable_eq_ok.mp htable
  obtain ⟨hamem, hbmem⟩ := (h.sound link hlink).sides_mem
  have hcolumn {side : Model} (hside : side ∈ datamodel.models) {id : Field}
      (hid : side.idField? = some id) : id.kind ≠ .object ∧ side.hasColumn id.name = true := by
    obtain ⟨hmem, hisId⟩ := Model.idField?_eq_some hid
    have hkind := hids side hside id hmem hisId
    exact ⟨hkind, hdistinct.hasColumn hside ⟨id, hmem, rfl, hkind⟩⟩
  obtain ⟨hakind, hacolumn⟩ := hcolumn hamem ha
  obtain ⟨hbkind, hbcolumn⟩ := hcolumn hbmem hb
  obtain ⟨hmem, hkind⟩ := Model.mem_relationFields.mp hfield
  have hkeys := ManyToMany.hasColumn_table link hakind hbkind
  rcases ManyToMany.mem_table_fields.mp hmem with rfl | rfl | rfl | rfl
  · exact absurd hkind hakind
  · exact absurd hkind hbkind
  · exact exists_resolve_holderField config joins hdistinct hamem hkeys.1 hacolumn
  · exact exists_resolve_holderField config joins hdistinct hbmem hkeys.2 hbcolumn

end JoinTable

theorem exists_ofDatamodel {config : Config} {datamodel : Datamodel}
    (hdistinct : datamodel.Distinct) (hnames : datamodel.PairsNames)
    (hseparate : datamodel.SeparatesTables) (hrelated : datamodel.WellRelated) :
    ∃ schema, Schema.ofDatamodel config datamodel = .ok schema := by
  obtain ⟨joins, hjoins⟩ := hrelated.exists_ofModels hdistinct
  obtain ⟨links, hlinks⟩ := JoinTable.ofModels_realizes hjoins
  refine ⟨_, Schema.ofDatamodel_eq_ok.mpr ⟨joins, hjoins, rfl, fun model hmodel field hfield => ?_⟩⟩
  rcases List.mem_append.mp hmodel with hmodel | hmodel
  · obtain ⟨input, hinput, rfl⟩ := List.mem_map.mp hmodel
    rw [JoinTable.relationFields_turnModel] at hfield
    obtain ⟨original, horiginal, rfl⟩ := List.mem_map.mp hfield
    by_cases htakes : JoinTable.Takes joins input.name original.name
    · obtain ⟨made, link, join, hjoin, hserves, rfl, rfl⟩ :=
        hlinks.exists_serves hdistinct hseparate hinput horiginal htakes
      rw [hserves.turnField_eq]
      exact hserves.exists_resolve_turned config hjoin
    · obtain ⟨related, hmem, hresolve⟩ := hrelated.exists_resolve hdistinct hinput horiginal
      rw [JoinTable.turnField_eq_self htakes]
      exact ⟨_, hlinks.exists_resolve_left hdistinct hnames config hinput hmem horiginal htakes
        hresolve⟩
  · obtain ⟨join, hjoin, rfl⟩ := List.mem_map.mp hmodel
    exact hlinks.exists_resolve_table hdistinct hrelated.ids config hjoin hfield

namespace Follows

def invitations : List Field :=
  [{ name := "inviterId", type := "Int" },
    { name := "inviter", kind := .object, type := "User", relationName := some "Invites",
      relationFromFields := ["inviterId"], relationToFields := ["id"] },
    { name := "invited", kind := .object, type := "User", isList := true,
      relationName := some "Invites" }]

theorem wellRelated_invitations : (datamodel invitations).WellRelated := by
  have hopposites : ∀ model ∈ (datamodel invitations).models, ∀ field ∈ model.relationFields,
      field.relation.isHolder = false → ∀ related ∈ (datamodel invitations).models,
        related.name = field.type → (field.opposite? model related).isSome = true := by
    decide
  have hreferred : ∀ related ∈ (datamodel invitations).models,
      ∀ model ∈ (datamodel invitations).models, ∀ field ∈ model.relationFields,
        ∀ name ∈ field.relationToFields,
          ∃ column ∈ related.fields, column.name = name ∧ column.kind ≠ .object := by
    decide
  have hids : ∀ model ∈ (datamodel invitations).models, model.fields.countP (·.isId) = 1 := by
    decide
  exact {
    ids := by decide
    known := by decide
    lengths := by decide
    own_columns := by decide
    related_columns := fun model hmodel field hfield _ related hrelated _ =>
      hreferred related hrelated model hmodel field hfield
    opposites := fun model hmodel field hfield hopen related hrelated hname =>
      Option.isSome_iff_exists.mp (hopposites model hmodel field hfield hopen related hrelated hname)
    single_ids := fun link hlink => ⟨hids _ hlink.model_mem, hids _ hlink.related_mem⟩ }

end Follows

theorem invitations_exists_ofDatamodel :
    (Follows.datamodel Follows.invitations).Distinct ∧
      (Follows.datamodel Follows.invitations).PairsNames ∧
      (Follows.datamodel Follows.invitations).SeparatesTables ∧
      (Follows.datamodel Follows.invitations).WellRelated ∧ ∃ schema,
        Schema.ofDatamodel (Config.ofDialect .sqlite) (Follows.datamodel Follows.invitations) =
          .ok schema := by
  have hdistinct : (Follows.datamodel Follows.invitations).Distinct := ⟨by decide, by decide⟩
  have hnames : (Follows.datamodel Follows.invitations).PairsNames := by
    unfold Datamodel.PairsNames
    decide
  have hseparate : (Follows.datamodel Follows.invitations).SeparatesTables := by
    unfold Datamodel.SeparatesTables
    decide
  exact ⟨hdistinct, hnames, hseparate, Follows.wellRelated_invitations,
    exists_ofDatamodel hdistinct hnames hseparate Follows.wellRelated_invitations⟩

end SchemaWriter
