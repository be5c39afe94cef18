import SchemaWriter.Proofs.Lists
import SchemaWriter.Proofs.Outcome
import SchemaWriter.Relation.ManyToMany

namespace SchemaWriter

open Outcome

theorem findModel?_eq_some {models : List Model} {name : String} {model : Model}
    (h : findModel? models name = some model) : model ∈ models ∧ model.name = name := by
  have hname := List.find?_some h
  exact ⟨List.mem_of_find?_eq_some h, by simpa using hname⟩

theorem Model.mem_relationFields {model : Model} {field : Field} :
    field ∈ model.relationFields ↔ field ∈ model.fields ∧ field.kind = .object := by
  simp [Model.relationFields, Field.isRelation]

theorem Model.idField?_eq_some {model : Model} {id : Field} (h : model.idField? = some id) :
    id ∈ model.fields ∧ id.isId = true := by
  unfold idField? at h
  split at h
  · rename_i field hids
    obtain rfl := Option.some.inj h
    exact List.mem_filter.mp (hids ▸ List.mem_singleton_self field)
  · simp at h

theorem faces_iff {model related : Model} {field other : Field} :
    field.faces model related other = true ↔ other.relationName = field.relationName ∧
      other.type = model.name ∧ ¬ (related.name = model.name ∧ other.name = field.name) := by
  simp only [Field.faces, Bool.and_eq_true, decide_eq_true_eq, Bool.not_eq_true',
    Bool.and_eq_false_iff, decide_eq_false_iff_not, and_assoc, not_and_or]

theorem opposite?_eq_some {model related : Model} {field other : Field}
    (h : field.opposite? model related = some other) :
    other ∈ related.relationFields ∧ other.relationName = field.relationName ∧
      other.type = model.name ∧ ¬ (related.name = model.name ∧ other.name = field.name) :=
  ⟨List.mem_of_find?_eq_some h, faces_iff.mp (List.find?_some h)⟩

namespace ManyToMany

structure IsLink (models : List Model) (link : ManyToMany) : Prop where
  model_mem : link.model ∈ models
  field_mem : link.field ∈ link.model.relationFields
  isList : link.field.isList = true
  isOpen : link.field.relation.isHolder = false
  related_found : findModel? models link.field.type = some link.related
  opposite_found : link.field.opposite? link.model link.related = some link.opposite
  opposite_isList : link.opposite.isList = true
  opposite_free : link.opposite.relationFromFields = []

theorem IsLink.related_mem {models : List Model} {link : ManyToMany} (h : link.IsLink models) :
    link.related ∈ models :=
  (findModel?_eq_some h.related_found).1

theorem forall_sides {link : ManyToMany} {P : Model → Prop} (hmodel : P link.model)
    (hrelated : P link.related) : P link.sides.1 ∧ P link.sides.2 := by
  unfold sides
  split
  · exact ⟨hrelated, hmodel⟩
  · exact ⟨hmodel, hrelated⟩

theorem IsLink.sides_mem {models : List Model} {link : ManyToMany} (h : link.IsLink models) :
    link.sides.1 ∈ models ∧ link.sides.2 ∈ models :=
  forall_sides (P := (· ∈ models)) h.model_mem h.related_mem

theorem IsLink.opposite_mem {models : List Model} {link : ManyToMany} (h : link.IsLink models) :
    link.opposite ∈ link.related.relationFields :=
  (opposite?_eq_some h.opposite_found).1

theorem ofField?_eq_some_iff {models : List Model} {model : Model} {field : Field}
    {link : ManyToMany} :
    ofField? models model field = .ok (some link) ↔
      field.isList = true ∧ field.relation.isHolder = false ∧ ∃ related opposite,
        findModel? models field.type = some related ∧
        field.opposite? model related = some opposite ∧ opposite.isList = true ∧
        opposite.relationFromFields = [] ∧ ⟨model, field, related, opposite⟩ = link := by
  unfold ofField?
  split
  · rename_i h
    constructor
    · intro he
      simp at he
    · rintro ⟨hlist, hholder, -⟩
      simp [hlist, hholder] at h
  · rename_i h
    simp only [Bool.or_eq_true, Bool.not_eq_true', not_or, Bool.not_eq_false,
      Bool.not_eq_true] at h
    cases hrelated : findModel? models field.type with
    | none => simp
    | some related =>
      cases hopposite : field.opposite? model related with
      | none => simp [hopposite]
      | some opposite =>
        cases hl : opposite.isList <;> cases hf : opposite.relationFromFields <;>
          simp [h, hopposite, hl, hf]

theorem isLink_of_ofField? {models : List Model} {model : Model} {field : Field}
    {link : ManyToMany} (hmodel : model ∈ models) (hfield : field ∈ model.relationFields)
    (h : ofField? models model field = .ok (some link)) : link.IsLink models := by
  obtain ⟨hlist, hopen, related, opposite, hr, ho, hol, hof, rfl⟩ := ofField?_eq_some_iff.mp h
  exact ⟨hmodel, hfield, hlist, hopen, hr, ho, hol, hof⟩

theorem IsLink.ofField? {models : List Model} {link : ManyToMany} (h : link.IsLink models) :
    ofField? models link.model link.field = .ok (some link) :=
  ofField?_eq_some_iff.mpr ⟨h.isList, h.isOpen, link.related, link.opposite, h.related_found,
    h.opposite_found, h.opposite_isList, h.opposite_free, rfl⟩

theorem joinTable_eq_ok {link : ManyToMany} {join : JoinTable} :
    link.joinTable = .ok join ↔ ∃ aId bId, link.sides.1.idField? = some aId ∧
      link.sides.2.idField? = some bId ∧ ⟨link.table aId bId, link.endpoints⟩ = join := by
  have hid (model : Model) (id : Field) :
      link.idOf model = .ok id ↔ model.idField? = some id := by
    unfold idOf
    cases model.idField? <;> simp
  unfold joinTable
  simp only [bind_eq_ok, hid, pure_eq_ok]
  constructor
  · rintro ⟨aId, ha, bId, hb, h⟩
    exact ⟨aId, bId, ha, hb, h⟩
  · rintro ⟨aId, bId, ha, hb, h⟩
    exact ⟨aId, ha, bId, hb, h⟩

theorem table_name {link : ManyToMany} {join : JoinTable} (h : link.joinTable = .ok join) :
    join.table.name = "_" ++ link.relation := by
  obtain ⟨aId, bId, -, -, rfl⟩ := joinTable_eq_ok.mp h
  rfl

theorem mem_table_fields {link : ManyToMany} {aId bId field : Field} :
    field ∈ (link.table aId bId).fields ↔
      field = keyColumn "A" aId ∨ field = keyColumn "B" bId ∨
      field = holderField (sideFields link.sides.1 link.sides.2).1 link.sides.1.name
        link.sideRelations.1 "A" aId.name ∨
      field = holderField (sideFields link.sides.1 link.sides.2).2 link.sides.2.name
        link.sideRelations.2 "B" bId.name := by
  simp [table]

theorem isList_of_mem_table {link : ManyToMany} {join : JoinTable} (h : link.joinTable = .ok join)
    {field : Field} (hfield : field ∈ join.table.fields) : field.isList = false := by
  obtain ⟨aId, bId, -, -, rfl⟩ := joinTable_eq_ok.mp h
  rcases mem_table_fields.mp hfield with rfl | rfl | rfl | rfl <;> rfl

theorem join_endpoints {link : ManyToMany} {join : JoinTable} (h : link.joinTable = .ok join) :
    join.endpoints = link.endpoints := by
  obtain ⟨aId, bId, -, -, rfl⟩ := joinTable_eq_ok.mp h
  rfl

def ends (link : ManyToMany) : List (String × String) :=
  [(link.model.name, link.field.name), (link.related.name, link.opposite.name)]

theorem mem_ends {link : ManyToMany} {model field : String} :
    (model, field) ∈ link.ends ↔ model = link.model.name ∧ field = link.field.name ∨
      model = link.related.name ∧ field = link.opposite.name := by
  simp [ends]

theorem IsLink.exists_of_ends {models : List Model} {link : ManyToMany} (h : link.IsLink models)
    {model field : String} (hend : (model, field) ∈ link.ends) :
    ∃ other ∈ models, other.name = model ∧ ∃ list ∈ other.relationFields, list.name = field := by
  rcases mem_ends.mp hend with ⟨rfl, rfl⟩ | ⟨rfl, rfl⟩
  · exact ⟨link.model, h.model_mem, rfl, link.field, h.field_mem, rfl⟩
  · exact ⟨link.related, h.related_mem, rfl, link.opposite, h.opposite_mem, rfl⟩

theorem endpoints_perm (link : ManyToMany) :
    (link.endpoints.map fun endpoint => (endpoint.model, endpoint.field)).Perm link.ends := by
  unfold endpoints ends isSelf
  by_cases hself : link.model.name = link.related.name
  · by_cases hsort : link.opposite.name < link.field.name
    · simpa [hself, hsort] using List.Perm.swap _ _ _
    · simp [hself, hsort]
  · simp [hself]

theorem exists_endpoint_iff {link : ManyToMany} {model field : String} :
    (∃ endpoint ∈ link.endpoints, endpoint.model = model ∧ endpoint.field = field) ↔
      (model, field) ∈ link.ends := by
  rw [← link.endpoints_perm.mem_iff, List.mem_map]
  simp [Prod.ext_iff]

def firsts (seen : List String) : List ManyToMany → List ManyToMany
  | [] => []
  | link :: rest =>
    if link.relation ∈ seen then firsts seen rest
    else link :: firsts (link.relation :: seen) rest

theorem firsts_spec (seen : List String) (links : List ManyToMany) :
    (∀ link ∈ firsts seen links, link ∈ links ∧ link.relation ∉ seen) ∧
      ((firsts seen links).map relation).Nodup ∧
      ∀ link ∈ links, link.relation ∈ seen ∨
        ∃ taken ∈ firsts seen links, taken.relation = link.relation := by
  -- The names that are seen grow along the list.
  induction links generalizing seen with
  | nil => simp [firsts]
  | cons link rest ih =>
    by_cases hseen : link.relation ∈ seen
    · obtain ⟨hsound, hnodup, hcomplete⟩ := ih seen
      simp only [firsts, if_pos hseen]
      refine ⟨fun other h => ⟨List.mem_cons_of_mem _ (hsound other h).1, (hsound other h).2⟩,
        hnodup, fun other h => ?_⟩
      rcases List.mem_cons.mp h with rfl | h
      · exact .inl hseen
      · exact hcomplete other h
    · obtain ⟨hsound, hnodup, hcomplete⟩ := ih (link.relation :: seen)
      simp only [firsts, if_neg hseen]
      refine ⟨fun other h => ?_, ?_, fun other h => ?_⟩
      · rcases List.mem_cons.mp h with rfl | h
        · exact ⟨List.mem_cons_self, hseen⟩
        · obtain ⟨hmem, hnew⟩ := hsound other h
          exact ⟨List.mem_cons_of_mem _ hmem, fun hold => hnew (List.mem_cons_of_mem _ hold)⟩
      · refine List.nodup_cons.mpr ⟨fun h => ?_, hnodup⟩
        obtain ⟨other, hother, hname⟩ := List.mem_map.mp h
        exact (hsound other hother).2 (hname ▸ List.mem_cons_self)
      · rcases List.mem_cons.mp h with rfl | h
        · exact .inr ⟨other, List.mem_cons_self, rfl⟩
        · rcases hcomplete other h with hold | ⟨taken, htaken, hname⟩
          · rcases List.mem_cons.mp hold with hname | hold
            · exact .inr ⟨link, List.mem_cons_self, hname.symm⟩
            · exact .inl hold
          · exact .inr ⟨taken, List.mem_cons_of_mem _ htaken, hname⟩

end ManyToMany

namespace JoinTable

open ManyToMany (firsts)

theorem collect_eq_ok {models : List Model} {seen : List String} {fields : List (Model × Field)}
    {joins : List JoinTable} :
    collect models seen fields = .ok joins ↔ ∃ found,
      List.Forall₂ (fun entry link => ManyToMany.ofField? models entry.1 entry.2 = .ok link)
        fields found ∧
      List.Forall₂ (fun link join => link.joinTable = .ok join)
        (firsts seen (found.filterMap id)) joins := by
  -- One pass finds relations and makes tables; here all relations are found before the first
  -- table is made.
  induction fields generalizing seen joins with
  | nil => simp [collect, firsts, eq_comm]
  | cons entry rest ih =>
    obtain ⟨model, field⟩ := entry
    simp only [collect, bind_eq_ok, List.forall₂_cons_left_iff]
    constructor
    · rintro ⟨found, hfound, h⟩
      cases found with
      | none =>
        obtain ⟨others, hothers, hjoins⟩ := ih.mp h
        exact ⟨none :: others, ⟨none, others, hfound, hothers, rfl⟩, by simpa using hjoins⟩
      | some link =>
        by_cases hseen : link.relation ∈ seen
        · simp only [List.contains_eq_mem, decide_eq_true_eq, hseen, if_true] at h
          obtain ⟨others, hothers, hjoins⟩ := ih.mp h
          exact ⟨some link :: others, ⟨some link, others, hfound, hothers, rfl⟩,
            by simpa [firsts, hseen] using hjoins⟩
        · simp only [List.contains_eq_mem, decide_eq_true_eq, hseen, if_false, bind_eq_ok,
            pure_eq_ok] at h
          obtain ⟨join, hjoin, more, hmore, rfl⟩ := h
          obtain ⟨others, hothers, hjoins⟩ := ih.mp hmore
          exact ⟨some link :: others, ⟨some link, others, hfound, hothers, rfl⟩,
            by simpa [firsts, hseen] using ⟨hjoin, hjoins⟩⟩
    · rintro ⟨found, ⟨first, others, hfirst, hothers, rfl⟩, hjoins⟩
      refine ⟨first, hfirst, ?_⟩
      cases first with
      | none => exact ih.mpr ⟨others, hothers, by simpa using hjoins⟩
      | some link =>
        by_cases hseen : link.relation ∈ seen
        · simp only [List.contains_eq_mem, decide_eq_true_eq, hseen, if_true]
          exact ih.mpr ⟨others, hothers, by simpa [firsts, hseen] using hjoins⟩
        · simp only [List.contains_eq_mem, decide_eq_true_eq, hseen, if_false, bind_eq_ok,
            pure_eq_ok]
          simp only [List.filterMap_cons, id, firsts, hseen, if_false,
            List.forall₂_cons_left_iff] at hjoins
          obtain ⟨join, more, hjoin, hmore, rfl⟩ := hjoins
          exact ⟨join, hjoin, more, ih.mpr ⟨others, hothers, hmore⟩, rfl⟩

structure Realizes (models : List Model) (links : List ManyToMany) (joins : List JoinTable) :
    Prop where
  tables : List.Forall₂ (fun link join => link.joinTable = .ok join) links joins
  sound : ∀ link ∈ links, link.IsLink models
  distinct : (links.map ManyToMany.relation).Nodup
  complete : ∀ link : ManyToMany, link.IsLink models →
    ∃ taken ∈ links, taken.relation = link.relation
  checked : ∀ model ∈ models, ∀ field ∈ model.relationFields,
    ∃ found, ManyToMany.ofField? models model field = .ok found

theorem mem_relationFields {models : List Model} {model : Model} {field : Field} :
    (model, field) ∈ relationFields models ↔ model ∈ models ∧ field ∈ model.relationFields := by
  simp only [relationFields, List.mem_flatMap, List.mem_map, Prod.mk.injEq]
  constructor
  · rintro ⟨_, hmodel, _, hfield, rfl, rfl⟩
    exact ⟨hmodel, hfield⟩
  · rintro ⟨hmodel, hfield⟩
    exact ⟨model, hmodel, field, hfield, rfl, rfl⟩

theorem isLink_of_mem_firsts {models : List Model} {found : List (Option ManyToMany)}
    (hfound : List.Forall₂ (fun entry link => ManyToMany.ofField? models entry.1 entry.2 = .ok link)
      (relationFields models) found) {link : ManyToMany}
    (hlink : link ∈ firsts [] (found.filterMap id)) : link.IsLink models := by
  have hmem := ((ManyToMany.firsts_spec [] (found.filterMap id)).1 link hlink).1
  obtain ⟨entry, hentry, rfl⟩ := List.mem_filterMap.mp hmem
  obtain ⟨⟨model, field⟩, hmem, hlink⟩ := exists_of_mem_right hfound hentry
  obtain ⟨hmodel, hfield⟩ := mem_relationFields.mp hmem
  exact ManyToMany.isLink_of_ofField? hmodel hfield hlink

theorem exists_ofModels {models : List Model}
    (hchecked : ∀ model ∈ models, ∀ field ∈ model.relationFields,
      ∃ found, ManyToMany.ofField? models model field = .ok found)
    (htables : ∀ link : ManyToMany, link.IsLink models → ∃ join, link.joinTable = .ok join) :
    ∃ joins, ofModels models = .ok joins := by
  have hfields : ∀ entry ∈ relationFields models,
      ∃ found, ManyToMany.ofField? models entry.1 entry.2 = .ok found := by
    rintro ⟨model, field⟩ hmem
    obtain ⟨hmodel, hfield⟩ := mem_relationFields.mp hmem
    exact hchecked model hmodel field hfield
  obtain ⟨found, hfound⟩ := exists_forall₂_iff.mpr hfields
  obtain ⟨joins, hjoins⟩ := exists_forall₂_iff.mpr fun link hlink =>
    htables link (isLink_of_mem_firsts hfound hlink)
  exact ⟨joins, collect_eq_ok.mpr ⟨found, hfound, hjoins⟩⟩

theorem realizes_of_found {models : List Model} {found : List (Option ManyToMany)}
    {joins : List JoinTable}
    (hfound : List.Forall₂ (fun entry link => ManyToMany.ofField? models entry.1 entry.2 = .ok link)
      (relationFields models) found)
    (htables : List.Forall₂ (fun link join => link.joinTable = .ok join)
      (firsts [] (found.filterMap id)) joins) :
    Realizes models (firsts [] (found.filterMap id)) joins := by
  obtain ⟨-, hdistinct, hcomplete⟩ := ManyToMany.firsts_spec [] (found.filterMap id)
  refine ⟨htables, fun link => isLink_of_mem_firsts hfound, hdistinct, fun link hlink => ?_,
    fun model hmodel field hfield => ?_⟩
  · obtain ⟨other, hother, hlink'⟩ := exists_of_mem_left hfound
      (mem_relationFields.mpr ⟨hlink.model_mem, hlink.field_mem⟩)
    obtain rfl : some link = other := Except.ok.inj (hlink.ofField?.symm.trans hlink')
    simpa using hcomplete link (List.mem_filterMap.mpr ⟨_, hother, rfl⟩)
  · obtain ⟨other, -, hother⟩ := exists_of_mem_left hfound
      (mem_relationFields.mpr ⟨hmodel, hfield⟩)
    exact ⟨other, hother⟩

theorem ofModels_realizes {models : List Model} {joins : List JoinTable}
    (h : ofModels models = .ok joins) : ∃ links, Realizes models links joins := by
  obtain ⟨found, hfound, htables⟩ := collect_eq_ok.mp h
  exact ⟨_, realizes_of_found hfound htables⟩

theorem synthesize_eq_ok {models turned tables : List Model} :
    synthesize models = .ok (turned, tables) ↔ ∃ joins, ofModels models = .ok joins ∧
      models.map (turnModel joins) = turned ∧ joins.map (·.table) = tables := by
  simp only [synthesize, bind_eq_ok, pure_eq_ok, Prod.mk.injEq]

theorem Realizes.exists_link {models : List Model} {links : List ManyToMany}
    {joins : List JoinTable} (h : Realizes models links joins) {join : JoinTable}
    (hjoin : join ∈ joins) : ∃ link ∈ links, link.joinTable = .ok join :=
  exists_of_mem_right h.tables hjoin

theorem Realizes.exists_join {models : List Model} {links : List ManyToMany}
    {joins : List JoinTable} (h : Realizes models links joins) {link : ManyToMany}
    (hlink : link ∈ links) : ∃ join ∈ joins, link.joinTable = .ok join :=
  exists_of_mem_left h.tables hlink

end JoinTable

end SchemaWriter
