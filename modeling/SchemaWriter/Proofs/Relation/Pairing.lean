import Mathlib.Data.List.TakeWhile
import SchemaWriter.Proofs.Datamodel.Distinct
import SchemaWriter.Proofs.Relation.Sides
import SchemaWriter.Proofs.Schema.Resolved

namespace SchemaWriter

open Outcome

namespace ManyToMany

structure Spans (models : List Model) (link : ManyToMany) : Prop extends link.Proper where
  model_mem : link.model ∈ models
  field_mem : link.field ∈ link.model.relationFields
  related_mem : link.related ∈ models
  opposite_mem : link.opposite ∈ link.related.relationFields

theorem Spans.swap {models : List Model} {link : ManyToMany} (h : link.Spans models) :
    link.swap.Spans models where
  toProper := h.toProper.swap
  model_mem := h.related_mem
  field_mem := h.opposite_mem
  related_mem := h.model_mem
  opposite_mem := h.field_mem

theorem IsLink.spans {datamodel : Datamodel} (hdistinct : datamodel.Distinct) {link : ManyToMany}
    (h : link.IsLink datamodel.models) : link.Spans datamodel.models where
  same_model := hdistinct.model_eq h.model_mem h.related_mem
  same_relation := (opposite?_eq_some h.opposite_found).2.1
  apart := fun hname hsame => (opposite?_eq_some h.opposite_found).2.2.2 ⟨hname.symm, hsame⟩
  model_mem := h.model_mem
  field_mem := h.field_mem
  related_mem := h.related_mem
  opposite_mem := h.opposite_mem

theorem Spans.entry_ne {models : List Model} {link : ManyToMany} (h : link.Spans models) :
    (link.model, link.field) ≠ (link.related, link.opposite) := by
  intro hsame
  obtain ⟨hmodel, hfield⟩ := Prod.mk.inj hsame
  exact h.apart (congrArg Model.name hmodel) (congrArg Field.name hfield.symm)

theorem mem_ends_of_same {made link : ManyToMany} (hsame : made = link ∨ made = link.swap)
    {model field : String} : (model, field) ∈ made.ends ↔ (model, field) ∈ link.ends := by
  rcases hsame with rfl | rfl
  · rfl
  · exact mem_ends.trans (or_comm.trans mem_ends.symm)

theorem Spans.relation_of_same {models : List Model} {made link : ManyToMany}
    (h : link.Spans models) (hsame : made = link ∨ made = link.swap) :
    made.relation = link.relation := by
  rcases hsame with rfl | rfl
  · rfl
  · exact h.swap_relation

theorem Spans.mem_endpoints_of_same {models : List Model} {made link : ManyToMany}
    (h : link.Spans models) (hsame : made = link ∨ made = link.swap) {endpoint : Endpoint}
    (hmem : endpoint ∈ made.endpoints) :
    endpoint = ⟨link.model.name, link.field.name, link.ownRelation⟩ ∨
      endpoint = ⟨link.related.name, link.opposite.name, link.swap.ownRelation⟩ := by
  rcases hsame with rfl | rfl
  · exact h.toProper.mem_endpoints hmem
  · exact (h.swap.toProper.mem_endpoints hmem).symm

-- The relation name of the two ends belongs to no third field.
theorem Spans.end_of_relation {datamodel : Datamodel} (hnames : datamodel.PairsNames)
    {link : ManyToMany} (h : link.Spans datamodel.models) {model : Model}
    (hmodel : model ∈ datamodel.models) {field : Field} (hfield : field ∈ model.relationFields)
    (hrelation : field.relation.name = link.relation) :
    model = link.model ∧ field = link.field ∨ model = link.related ∧ field = link.opposite := by
  have hentry := hnames.eq_or_eq
    (JoinTable.mem_relationFields.mpr ⟨h.model_mem, h.field_mem⟩)
    (JoinTable.mem_relationFields.mpr ⟨h.related_mem, h.opposite_mem⟩)
    (JoinTable.mem_relationFields.mpr ⟨hmodel, hfield⟩) h.swap_relation hrelation h.entry_ne
  simpa only [Prod.mk.injEq] using hentry

theorem Spans.eq_or_eq_swap {datamodel : Datamodel} (hnames : datamodel.PairsNames)
    {link other : ManyToMany} (h : link.Spans datamodel.models)
    (hother : other.Spans datamodel.models)
    (hrelation : other.relation = link.relation) : other = link ∨ other = link.swap := by
  have hfirst := h.end_of_relation hnames hother.model_mem hother.field_mem hrelation
  have hsecond := h.end_of_relation hnames hother.related_mem hother.opposite_mem
    (hother.swap_relation.trans hrelation)
  have hne := hother.entry_ne
  obtain ⟨model, field, related, opposite⟩ := link
  obtain ⟨model', field', related', opposite'⟩ := other
  dsimp only at hfirst hsecond
  rcases hfirst with ⟨rfl, rfl⟩ | ⟨rfl, rfl⟩
  · rcases hsecond with ⟨rfl, rfl⟩ | ⟨rfl, rfl⟩
    · exact absurd rfl hne
    · exact .inl rfl
  · rcases hsecond with ⟨rfl, rfl⟩ | ⟨rfl, rfl⟩
    · exact .inr rfl
    · exact absurd rfl hne

def before (link : ManyToMany) : List Field :=
  link.model.relationFields.takeWhile fun field => field.name ≠ link.field.name

def Unclaimed (link : ManyToMany) : Prop :=
  link.model.name = link.related.name → ∀ field ∈ link.before,
    field.type = "_" ++ link.relation → field.relationName ≠ some link.ownRelation

theorem ne_of_mem_before {link : ManyToMany} {field : Field} (h : field ∈ link.before) :
    field ∈ link.model.relationFields ∧ field.name ≠ link.field.name :=
  ⟨(List.takeWhile_prefix _).subset h, by simpa using List.mem_takeWhile_imp h⟩

theorem Spans.relationFields_eq {datamodel : Datamodel} (hdistinct : datamodel.Distinct)
    {link : ManyToMany} (h : link.Spans datamodel.models) :
    ∃ after, link.model.relationFields = link.before ++ link.field :: after := by
  have hsplit : link.before ++ link.model.relationFields.dropWhile
      (fun field => field.name ≠ link.field.name) = link.model.relationFields :=
    List.takeWhile_append_dropWhile
  cases hdrop : link.model.relationFields.dropWhile
      (fun field => field.name ≠ link.field.name) with
  | nil =>
    rw [hdrop, List.append_nil] at hsplit
    have hmem : link.field ∈ link.before := hsplit.symm ▸ h.field_mem
    exact absurd rfl (ne_of_mem_before hmem).2
  | cons field after =>
    rw [hdrop] at hsplit
    have hmem : field ∈ link.model.relationFields :=
      hsplit ▸ List.mem_append_right _ List.mem_cons_self
    have hstop := List.head?_dropWhile_not (fun field => decide (field.name ≠ link.field.name))
      link.model.relationFields
    rw [hdrop] at hstop
    have hname : field.name = link.field.name := by simpa using hstop
    obtain rfl := hdistinct.field_eq h.model_mem hmem h.field_mem hname
    exact ⟨after, hsplit.symm⟩

def turned (link : ManyToMany) : Field :=
  { link.field with
    type := link.tableName, relationName := some link.ownRelation, isList := true,
    relationFromFields := [], relationToFields := [] }

end ManyToMany

namespace JoinTable

variable {models : List Model} {links : List ManyToMany} {joins : List JoinTable}

theorem Realizes.eq_of_relation (h : Realizes models links joins) {made other : ManyToMany}
    (hmade : made ∈ links) (hother : other ∈ links) (hrelation : other.relation = made.relation) :
    other = made :=
  List.inj_on_of_nodup_map h.distinct hother hmade hrelation

theorem Realizes.eq_of_table_name (h : Realizes models links joins) {made : ManyToMany}
    (hmade : made ∈ links) {join other : JoinTable} (hjoin : made.joinTable = .ok join)
    (hother : other ∈ joins) (hname : other.table.name = made.tableName) : other = join := by
  obtain ⟨source, hsource, htable⟩ := h.exists_link hother
  have hrelation : source.relation = made.relation := by
    have happend := (ManyToMany.table_name htable).symm.trans hname
    exact (String.append_right_inj "_").mp happend
  obtain rfl := h.eq_of_relation hmade hsource hrelation
  exact Except.ok.inj (htable.symm.trans hjoin)

theorem Realizes.table_names (h : Realizes models links joins) :
    joins.map (·.table.name) = (links.map ManyToMany.relation).map ("_" ++ ·) := by
  have htables := h.tables
  clear h
  induction htables with
  | nil => rfl
  | cons htable _ ih => simp [ManyToMany.table_name htable, ih]

theorem Realizes.nodup_table_names (h : Realizes models links joins) :
    ((joins.map (·.table)).map Model.name).Nodup := by
  rw [List.map_map]
  exact h.table_names ▸ h.distinct.map fun _ _ hname => (String.append_right_inj "_").mp hname

theorem Realizes.filter_tables (h : Realizes models links joins) {made : ManyToMany}
    {join : JoinTable} (hjoin : made.joinTable = .ok join) (hmem : join ∈ joins) :
    (joins.map (·.table)).filter (·.name = "_" ++ made.relation) = [join.table] := by
  rw [← ManyToMany.table_name hjoin]
  exact filter_eq_singleton h.nodup_table_names (List.mem_map_of_mem hmem)

theorem Realizes.turnField_of_kind {datamodel : Datamodel}
    (h : Realizes datamodel.models links joins) (hdistinct : datamodel.Distinct) {model : Model}
    (hmodel : model ∈ datamodel.models) {field : Field} (hfield : field ∈ model.fields)
    (hkind : field.kind ≠ .object) : turnField joins model field = field := by
  refine turnField_eq_self fun htakes => ?_
  obtain ⟨link, hlink, hend⟩ := h.takes_iff.mp htakes
  have hrelation := hdistinct.mem_relationFields_of_ends (h.sound link hlink) hmodel hfield hend
  exact hkind (Model.mem_relationFields.mp hrelation).2

theorem Realizes.turnField_eq {datamodel : Datamodel}
    (h : Realizes datamodel.models links joins) (hdistinct : datamodel.Distinct)
    {made link : ManyToMany} (hmade : made ∈ links) (hspans : link.Spans datamodel.models)
    (hsame : made = link ∨ made = link.swap) :
    turnField joins link.model link.field = link.turned := by
  have hends : (link.model.name, link.field.name) ∈ made.ends :=
    (ManyToMany.mem_ends_of_same hsame).mpr List.mem_cons_self
  obtain ⟨other, hother, endpoint, hendpoint, hmodel, hfield, hturn⟩ :=
    turnField_of_takes (h.takes_iff.mpr ⟨made, hmade, hends⟩)
  obtain ⟨source, hsource, htable⟩ := h.exists_link hother
  rw [ManyToMany.join_endpoints htable] at hendpoint
  have hmadeRelation := hspans.relation_of_same hsame
  have hrelation : source.relation = made.relation := by
    have hname := hdistinct.relationName_of_ends (h.sound source hsource)
      hspans.model_mem hspans.field_mem
      (ManyToMany.exists_endpoint_iff.mp ⟨endpoint, hendpoint, hmodel, hfield⟩)
    rw [hmadeRelation]
    simp only [ManyToMany.relation, Field.relation, hname]
  obtain rfl := h.eq_of_relation hmade hsource hrelation
  have hown : endpoint.relation = link.ownRelation := by
    rcases hspans.mem_endpoints_of_same hsame hendpoint with rfl | rfl
    · rfl
    · exact absurd hfield (hspans.apart hmodel.symm)
  rw [hturn, ManyToMany.table_name htable, hown, hmadeRelation]
  rfl

theorem Realizes.exists_model_of_takes {datamodel : Datamodel}
    (h : Realizes datamodel.models links joins) (hdistinct : datamodel.Distinct) {model : Model}
    (hmodel : model ∈ datamodel.models) {field : Field} (hfield : field ∈ model.relationFields)
    (htakes : Takes joins model.name field.name) :
    ∃ target ∈ datamodel.models, target.name = field.type := by
  obtain ⟨source, hsource, hend⟩ := h.takes_iff.mp htakes
  have hlink := h.sound source hsource
  rcases hdistinct.eq_of_ends hlink hmodel hfield hend with ⟨rfl, rfl⟩ | ⟨rfl, rfl⟩
  · exact ⟨source.related, hlink.related_mem, (findModel?_eq_some hlink.related_found).2⟩
  · exact ⟨source.model, hlink.model_mem, (opposite?_eq_some hlink.opposite_found).2.2.1.symm⟩

theorem Realizes.exists_end {datamodel : Datamodel} (h : Realizes datamodel.models links joins)
    (hdistinct : datamodel.Distinct) {model : Model} (hmodel : model ∈ datamodel.models)
    {field : Field} (hfield : field ∈ model.relationFields)
    (htakes : Takes joins model.name field.name) :
    ∃ made ∈ links, ∃ link : ManyToMany, link.Spans datamodel.models ∧
      (made = link ∨ made = link.swap) ∧ link.model = model ∧ link.field = field := by
  obtain ⟨made, hmade, hend⟩ := h.takes_iff.mp htakes
  have hlink := h.sound made hmade
  rcases hdistinct.eq_of_ends hlink hmodel hfield hend with ⟨rfl, rfl⟩ | ⟨rfl, rfl⟩
  · exact ⟨made, hmade, made, hlink.spans hdistinct, .inl rfl, rfl, rfl⟩
  · exact ⟨made, hmade, made.swap, (hlink.spans hdistinct).swap, .inr rfl, rfl, rfl⟩

structure Serves (datamodel : Datamodel) (links : List ManyToMany) (joins : List JoinTable)
    (made : ManyToMany) (join : JoinTable) (link : ManyToMany) : Prop where
  realizes : Realizes datamodel.models links joins
  distinct : datamodel.Distinct
  separate : datamodel.SeparatesTables
  made_mem : made ∈ links
  made_table : made.joinTable = .ok join
  spans : link.Spans datamodel.models
  same : made = link ∨ made = link.swap

namespace Serves

variable {datamodel : Datamodel} {link made : ManyToMany} {join : JoinTable}

theorem swap (h : Serves datamodel links joins made join link) :
    Serves datamodel links joins made join link.swap :=
  { h with spans := h.spans.swap, same := h.same.symm }

theorem relation_eq (h : Serves datamodel links joins made join link) :
    made.relation = link.relation :=
  h.spans.relation_of_same h.same

theorem table_name (h : Serves datamodel links joins made join link) :
    join.table.name = link.tableName := by
  rw [ManyToMany.table_name h.made_table, h.relation_eq]
  rfl

theorem absent (h : Serves datamodel links joins made join link) {model : Model}
    (hmodel : model ∈ datamodel.models) : link.tableName ≠ model.name :=
  (h.separate link.model h.spans.model_mem link.field h.spans.field_mem model hmodel).symm

theorem mem_endpoints (h : Serves datamodel links joins made join link) {endpoint : Endpoint}
    (hmem : endpoint ∈ made.endpoints) :
    endpoint = ⟨link.model.name, link.field.name, link.ownRelation⟩ ∨
      endpoint = ⟨link.related.name, link.opposite.name, link.swap.ownRelation⟩ :=
  h.spans.mem_endpoints_of_same h.same hmem

theorem turnField_eq (h : Serves datamodel links joins made join link) :
    turnField joins link.model link.field = link.turned :=
  h.realizes.turnField_eq h.distinct h.made_mem h.spans h.same

theorem field?_turned (h : Serves datamodel links joins made join link) :
    (turnModel joins link.model).field? link.field.name = some link.turned := by
  rw [field?_turnModel,
    h.distinct.field? h.spans.model_mem (Model.mem_relationFields.mp h.spans.field_mem).1,
    Option.map_some, h.turnField_eq]

theorem field_eq_of_turned (h : Serves datamodel links joins made join link)
    (hnames : datamodel.PairsNames) {field : Field} (hfield : field ∈ link.model.relationFields)
    (hclear : link.isSelf = true → field.type = link.tableName →
      field.relationName ≠ some link.ownRelation)
    (htype : (turnField joins link.model field).type = link.tableName)
    (hrelation : (turnField joins link.model field).relationName = some link.ownRelation) :
    field = link.field := by
  have hspans := h.spans
  by_cases htakes : Takes joins link.model.name field.name
  · obtain ⟨other, hother, endpoint, hendpoint, hmodel, hend, hturn⟩ := turnField_of_takes htakes
    rw [hturn] at htype hrelation
    have hname : other.table.name = made.tableName :=
      htype.trans (congrArg ("_" ++ ·) h.relation_eq.symm)
    obtain rfl := h.realizes.eq_of_table_name h.made_mem h.made_table hother hname
    rw [ManyToMany.join_endpoints h.made_table] at hendpoint
    rcases h.mem_endpoints hendpoint with rfl | rfl
    · exact h.distinct.field_eq hspans.model_mem hfield hspans.field_mem hend.symm
    · have hself := ManyToMany.isSelf_iff.mpr hmodel.symm
      exact absurd (Option.some.inj hrelation).symm (hspans.ownRelation_ne hself)
  · rw [turnField_eq_self htakes] at htype hrelation
    cases hself : link.isSelf with
    | true => exact absurd hrelation (hclear hself htype)
    | false =>
      rw [ManyToMany.ownRelation_of_not_isSelf hself] at hrelation
      have hcarried : field.relation.name = link.relation := by
        rw [Field.relation, hrelation]
        rfl
      rcases hspans.end_of_relation hnames hspans.model_mem hfield hcarried with
        ⟨-, hsame⟩ | ⟨hmodel, -⟩
      · exact hsame
      · rw [ManyToMany.isSelf_iff.mpr (congrArg Model.name hmodel)] at hself
        cases hself

theorem faces_holder (h : Serves datamodel links joins made join link) {id other : Field} :
    (link.holder id).faces join.table (turnModel joins link.model) other = true ↔
      other.relationName = some link.ownRelation ∧ other.type = link.tableName := by
  rw [faces_iff, h.table_name, turnModel_name]
  exact and_congr_right fun _ => and_iff_left fun hname => h.absent h.spans.model_mem hname.1.symm

theorem exists_holder (h : Serves datamodel links joins made join link) :
    ∃ id, link.model.idField? = some id ∧
      link.turned.opposite? (turnModel joins link.model) join.table = some (link.holder id) := by
  have hown : ∃ own, link.joinTable = .ok own ∧ own.table = join.table := by
    have hmade := h.made_table
    rcases h.same with rfl | rfl
    · exact ⟨join, hmade, rfl⟩
    · exact h.spans.swap.exists_swap_joinTable hmade
  obtain ⟨own, hown, htable⟩ := hown
  obtain ⟨id, hid, hthere⟩ := h.spans.toProper.exists_holder hown (h.absent h.spans.model_mem)
  exact ⟨id, hid, htable ▸ hthere _ _ rfl rfl⟩

theorem opposite?_holder (h : Serves datamodel links joins made join link)
    (hnames : datamodel.PairsNames) (hclear : link.Unclaimed) (id : Field) :
    (link.holder id).opposite? join.table (turnModel joins link.model) = some link.turned := by
  obtain ⟨after, hsplit⟩ := h.spans.relationFields_eq h.distinct
  rw [Field.opposite?, relationFields_turnModel, hsplit, List.map_append, List.map_cons,
    h.turnField_eq, List.find?_eq_some_iff_append]
  refine ⟨h.faces_holder.mpr ⟨rfl, rfl⟩, _, _, rfl, fun other hother => ?_⟩
  obtain ⟨field, hfield, rfl⟩ := List.mem_map.mp hother
  obtain ⟨hmem, hne⟩ := ManyToMany.ne_of_mem_before hfield
  rw [Bool.not_eq_true', Bool.eq_false_iff]
  intro hfaces
  obtain ⟨hrelation, htype⟩ := h.faces_holder.mp hfaces
  have heq := h.field_eq_of_turned hnames hmem
    (fun hself => hclear (ManyToMany.isSelf_iff.mp hself) field hfield) htype hrelation
  exact hne (congrArg Field.name heq)

theorem unclaimed (h : Serves datamodel links joins made join link) {id : Field}
    (hback : (link.holder id).opposite? join.table (turnModel joins link.model) =
      some link.turned) : link.Unclaimed := by
  intro _ field hfield htype hrelation
  obtain ⟨hmem, -⟩ := ManyToMany.ne_of_mem_before hfield
  have hfree : ¬ Takes joins link.model.name field.name := by
    intro htakes
    obtain ⟨target, htarget, hname⟩ :=
      h.realizes.exists_model_of_takes h.distinct h.spans.model_mem hmem htakes
    exact h.absent htarget (htype.symm.trans hname.symm)
  have hfaces : (link.holder id).faces join.table (turnModel joins link.model)
      (turnField joins link.model field) = true := by
    rw [turnField_eq_self hfree]
    exact h.faces_holder.mpr ⟨hrelation, htype⟩
  obtain ⟨after, hsplit⟩ := h.spans.relationFields_eq h.distinct
  rw [Field.opposite?, relationFields_turnModel, hsplit, List.map_append,
    List.find?_append] at hback
  cases hfront : (link.before.map (turnField joins link.model)).find?
      ((link.holder id).faces join.table (turnModel joins link.model)) with
  | none => exact List.find?_eq_none.mp hfront _ (List.mem_map_of_mem hfield) hfaces
  | some other =>
    rw [hfront, Option.some_or] at hback
    obtain ⟨first, hfirst, hturned⟩ := List.mem_map.mp (List.mem_of_find?_eq_some hfront)
    have hname : first.name = link.turned.name := by
      rw [← Option.some.inj hback, ← hturned, turnField_name]
    exact (ManyToMany.ne_of_mem_before hfirst).2 hname

end Serves

end JoinTable

namespace Schema

structure Leads (schema : Schema) (link : ManyToMany) (table turned : Model)
    (list holder id : Field) : Prop where
  turned_found : schema.findModel? link.model.name = some turned
  list_found : turned.field? link.field.name = some list
  list_isRelation : list.isRelation = true
  list_isList : list.isList = true
  list_type : list.type = table.name
  list_from : list.relationFromFields = []
  list_to : list.relationToFields = []
  there : list.opposite? turned table = some holder
  back : holder.opposite? table turned = some list
  holder_type : holder.type = link.model.name
  holder_from : holder.relationFromFields = [link.column]
  id_found : link.model.idField? = some id
  holder_to : holder.relationToFields = [id.name]

structure Pairs (schema : Schema) (link : ManyToMany) : Prop where
  leads : ∃ table, schema.joins.filter (·.name = "_" ++ link.relation) = [table] ∧
    (∃ turned list holder id, schema.Leads link table turned list holder id) ∧
    ∃ turned list holder id, schema.Leads link.swap table turned list holder id
  columns : link.column ≠ link.swap.column

theorem findModel?_turned (config : Config) (joins : List JoinTable) {datamodel : Datamodel}
    (hnames : (datamodel.models.map Model.name).Nodup) {model : Model}
    (hmodel : model ∈ datamodel.models) :
    (joined config datamodel joins).findModel? model.name =
      some (JoinTable.turnModel joins model) := by
  rw [findModel?, allModels, joined, findModel?_append,
    findModel?_map (JoinTable.turnModel joins) (fun _ => rfl), findModel?_of_nodup hnames hmodel]
  rfl

theorem findModel?_joined (config : Config) (joins : List JoinTable) {datamodel : Datamodel}
    (hdistinct : datamodel.Distinct) {model : Model} (hmodel : model ∈ datamodel.models) :
    (joined config datamodel joins).findModel? model.name =
      some (JoinTable.turnModel joins model) :=
  findModel?_turned config joins hdistinct.models hmodel

theorem leads_iff (config : Config) {datamodel : Datamodel} {links : List ManyToMany}
    {joins : List JoinTable} {made link : ManyToMany} {join : JoinTable}
    (h : JoinTable.Serves datamodel links joins made join link) (hnames : datamodel.PairsNames) :
    (∃ turned list holder id,
      (joined config datamodel joins).Leads link join.table turned list holder id) ↔
    link.Unclaimed := by
  have hturned := findModel?_joined config joins h.distinct h.spans.model_mem
  obtain ⟨id, hid, hthere⟩ := h.exists_holder
  constructor
  · rintro ⟨turned, list, holder, _, hleads⟩
    obtain rfl := Option.some.inj (hturned.symm.trans hleads.turned_found)
    obtain rfl := Option.some.inj (h.field?_turned.symm.trans hleads.list_found)
    obtain rfl := Option.some.inj (hthere.symm.trans hleads.there)
    exact h.unclaimed hleads.back
  · intro hclear
    refine ⟨JoinTable.turnModel joins link.model, link.turned, link.holder id, id, ?_⟩
    exact {
      turned_found := hturned
      list_found := h.field?_turned
      list_isRelation := decide_eq_true (Model.mem_relationFields.mp h.spans.field_mem).2
      list_isList := rfl
      list_type := h.table_name.symm
      list_from := rfl
      list_to := rfl
      there := hthere
      back := h.opposite?_holder hnames hclear id
      holder_type := rfl
      holder_from := rfl
      id_found := hid
      holder_to := rfl }

end Schema

theorem ofDatamodel_pairs {config : Config} {datamodel : Datamodel} {schema : Schema}
    (hdistinct : datamodel.Distinct) (hnames : datamodel.PairsNames)
    (hseparate : datamodel.SeparatesTables)
    (h : Schema.ofDatamodel config datamodel = .ok schema) {link : ManyToMany}
    (hlink : link.IsLink datamodel.models) :
    schema.Pairs link ↔ link.Unclaimed ∧ link.swap.Unclaimed := by
  obtain ⟨joins, hjoins, rfl, -⟩ := Schema.ofDatamodel_eq_ok.mp h
  obtain ⟨links, hlinks⟩ := JoinTable.ofModels_realizes hjoins
  obtain ⟨made, hmade, hrelation⟩ := hlinks.complete link hlink
  obtain ⟨join, hmem, hjoin⟩ := hlinks.exists_join hmade
  have hspans := hlink.spans hdistinct
  have hsame := hspans.eq_or_eq_swap hnames ((hlinks.sound made hmade).spans hdistinct) hrelation
  have hserves : JoinTable.Serves datamodel links joins made join link :=
    ⟨hlinks, hdistinct, hseparate, hmade, hjoin, hspans, hsame⟩
  have hfirst := Schema.leads_iff config hserves hnames
  have hsecond := Schema.leads_iff config hserves.swap hnames
  have hfilter := hlinks.filter_tables hjoin hmem
  rw [hrelation] at hfilter
  constructor
  · rintro ⟨⟨table, htable, hleads, hback⟩, -⟩
    obtain rfl := List.singleton_inj.mp (hfilter.symm.trans htable)
    exact ⟨hfirst.mp hleads, hsecond.mp hback⟩
  · rintro ⟨hclear, hclear'⟩
    exact ⟨⟨join.table, hfilter, hfirst.mpr hclear, hsecond.mpr hclear'⟩, hspans.column_ne⟩

namespace Follows

def list (name : String) : Field :=
  { name, kind := .object, type := "User", isList := true, relationName := some "Follows" }

def user (further : List Field) : Model :=
  { name := "User", fields := { name := "id", type := "Int", isId := true } ::
    (further ++ [list "followers", list "following"]) }

def datamodel (further : List Field) : Datamodel where
  models := [user further]

def link (further : List Field) : ManyToMany :=
  ⟨user further, list "followers", user further, list "following"⟩

def rival : Field :=
  { name := "link", kind := .object, type := "_Follows", relationName := some "Follows_A" }

theorem isLink {further : List Field}
    (h : ManyToMany.ofField? (datamodel further).models (user further) (list "followers") =
      .ok (some (link further))) : (link further).IsLink (datamodel further).models :=
  ManyToMany.isLink_of_ofField? List.mem_cons_self
    (Model.mem_relationFields.mpr ⟨by simp [user], rfl⟩) h

end Follows

theorem follows_pairs :
    (Follows.datamodel []).Distinct ∧ (Follows.datamodel []).PairsNames ∧
      (Follows.datamodel []).SeparatesTables ∧
      (Follows.link []).IsLink (Follows.datamodel []).models ∧ ∃ schema,
        Schema.ofDatamodel (Config.ofDialect .sqlite) (Follows.datamodel []) = .ok schema ∧
        schema.Pairs (Follows.link []) := by
  have hdistinct : (Follows.datamodel []).Distinct := ⟨by decide, by decide⟩
  have hnames : (Follows.datamodel []).PairsNames := by
    unfold Datamodel.PairsNames
    decide
  have hseparate : (Follows.datamodel []).SeparatesTables := by
    unfold Datamodel.SeparatesTables
    decide
  have hclear : (Follows.link []).Unclaimed ∧ (Follows.link []).swap.Unclaimed := by
    unfold ManyToMany.Unclaimed
    decide
  have hready :
      (Schema.ofDatamodel (Config.ofDialect .sqlite) (Follows.datamodel [])).isOk = true := by
    decide
  have hlink : (Follows.link []).IsLink (Follows.datamodel []).models := Follows.isLink rfl
  obtain ⟨schema, h⟩ := exists_of_isOk hready
  exact ⟨hdistinct, hnames, hseparate, hlink, schema, h,
    (ofDatamodel_pairs hdistinct hnames hseparate h hlink).mpr hclear⟩

def Schema.back? (schema : Schema) (link : ManyToMany) (table : Model) : Option Field := do
  let turned ← schema.findModel? link.model.name
  let list ← turned.field? link.field.name
  let holder ← list.opposite? turned table
  holder.opposite? table turned

theorem Schema.Pairs.back? {schema : Schema} {link : ManyToMany} (h : schema.Pairs link) :
    (schema.joins.filter (·.name = "_" ++ link.relation)).all
      (fun table => (schema.back? link table).any (·.name = link.field.name)) = true := by
  obtain ⟨table, htable, ⟨turned, list, holder, id, hleads⟩, -⟩ := h.leads
  have hname : list.name = link.field.name := by
    simpa using List.find?_some hleads.list_found
  simp [htable, Schema.back?, hleads.turned_found, hleads.list_found, hleads.there, hleads.back,
    hname]

theorem follows_not_pairs :
    (Follows.datamodel [Follows.rival]).Distinct ∧ (Follows.datamodel [Follows.rival]).PairsNames ∧
      (Follows.datamodel [Follows.rival]).SeparatesTables ∧
      (Follows.link [Follows.rival]).IsLink (Follows.datamodel [Follows.rival]).models ∧
      ∃ schema, Schema.ofDatamodel (Config.ofDialect .sqlite) (Follows.datamodel [Follows.rival]) =
        .ok schema ∧ ¬ schema.Pairs (Follows.link [Follows.rival]) := by
  have hnames : (Follows.datamodel [Follows.rival]).PairsNames := by
    unfold Datamodel.PairsNames
    decide
  have hseparate : (Follows.datamodel [Follows.rival]).SeparatesTables := by
    unfold Datamodel.SeparatesTables
    decide
  have hmissed : (Schema.ofDatamodel (Config.ofDialect .sqlite)
      (Follows.datamodel [Follows.rival])).toOption.any (fun schema =>
        !(schema.joins.filter (·.name = "_" ++ (Follows.link [Follows.rival]).relation)).all
          fun table => (schema.back? (Follows.link [Follows.rival]) table).any
            (·.name = (Follows.link [Follows.rival]).field.name)) = true := by
    decide
  refine ⟨⟨by decide, by decide⟩, hnames, hseparate, Follows.isLink rfl, ?_⟩
  obtain ⟨schema, h, hmissed⟩ := exists_of_any hmissed
  refine ⟨schema, h, fun hpairs => ?_⟩
  rw [hpairs.back?] at hmissed
  cases hmissed

end SchemaWriter
