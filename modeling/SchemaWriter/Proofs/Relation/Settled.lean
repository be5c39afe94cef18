import SchemaWriter.Proofs.Relation.Leftover
import SchemaWriter.Proofs.Relation.Rearranged
import SchemaWriter.Proofs.Schema.WellRelated

namespace SchemaWriter

open Outcome

namespace ManyToMany

def entry (link : ManyToMany) : Model × Field :=
  (link.model, link.field)

def IsSide (models : List Model) (side : ManyToMany) : Prop :=
  side.IsLink models ∨ side.swap.IsLink models

theorem entry_of_ofField? {models : List Model} {place : Model × Field} {link : ManyToMany}
    (h : ofField? models place.1 place.2 = .ok (some link)) : link.entry = place := by
  obtain ⟨-, -, related, opposite, -, -, -, -, rfl⟩ := ofField?_eq_some_iff.mp h
  rfl

theorem ofField?_eq_none {models : List Model} {model : Model} {field : Field}
    (h : field.isList = true → field.relation.isHolder = false → ∃ related opposite,
      findModel? models field.type = some related ∧
      field.opposite? model related = some opposite ∧
      ¬ (opposite.isList = true ∧ opposite.relationFromFields = [])) :
    ofField? models model field = .ok none := by
  unfold ofField?
  split
  · rfl
  · rename_i hopen
    simp only [Bool.or_eq_true, Bool.not_eq_true', not_or, Bool.not_eq_false,
      Bool.not_eq_true] at hopen
    obtain ⟨related, opposite, hrelated, hopposite, hlist⟩ := h hopen.1 hopen.2
    simp only [hrelated, hopposite]
    rw [if_pos]
    simpa [imp_iff_not_or] using hlist

theorem exists_opposite_of_ofField? {models : List Model} {model : Model} {field : Field}
    {found : Option ManyToMany} (h : ofField? models model field = .ok found)
    (hlist : field.isList = true) (hopen : field.relation.isHolder = false) :
    ∃ related opposite, findModel? models field.type = some related ∧
      field.opposite? model related = some opposite := by
  unfold ofField? at h
  rw [if_neg (by simp [hlist, hopen])] at h
  cases hrelated : findModel? models field.type with
  | none => simp [hrelated] at h
  | some related =>
    cases hopposite : field.opposite? model related with
    | none => simp [hrelated, hopposite] at h
    | some opposite => exact ⟨related, opposite, rfl, hopposite⟩

theorem firsts_sublist (seen : List String) (links : List ManyToMany) :
    (firsts seen links).Sublist links := by
  induction links generalizing seen with
  | nil => exact .slnil
  | cons link rest ih =>
    rw [firsts]
    split
    · exact (ih seen).cons link
    · exact (ih _).cons_cons link

theorem exists_split_of_mem_firsts {seen : List String} {links : List ManyToMany}
    {link : ManyToMany} (h : link ∈ firsts seen links) :
    ∃ front back, links = front ++ link :: back ∧
      ∀ other ∈ front, other.relation ≠ link.relation := by
  induction links generalizing seen with
  | nil => cases h
  | cons first rest ih =>
    rw [firsts] at h
    split at h
    · rename_i hseen
      obtain ⟨front, back, rfl, hfront⟩ := ih h
      refine ⟨first :: front, back, rfl, List.forall_mem_cons.mpr ⟨fun hsame => ?_, hfront⟩⟩
      exact ((firsts_spec seen _).1 link h).2 (hsame ▸ hseen)
    · rcases List.mem_cons.mp h with rfl | h
      · exact ⟨[], rest, rfl, List.forall_mem_nil _⟩
      · obtain ⟨front, back, rfl, hfront⟩ := ih h
        refine ⟨first :: front, back, rfl, List.forall_mem_cons.mpr ⟨fun hsame => ?_, hfront⟩⟩
        exact ((firsts_spec _ _).1 link h).2 (hsame ▸ List.mem_cons_self)

end ManyToMany

/-- The relations between two lists, each once, in the order in which the fields of the models meet
them, and from the end where they are first met. -/
structure FirstMet (models : List Model) (pairs : List ManyToMany) : Prop where
  sound : ∀ link ∈ pairs, link.IsLink models
  complete : ∀ link : ManyToMany, link.IsLink models → link ∈ pairs ∨ link.swap ∈ pairs
  nodup : pairs.Nodup
  once : ∀ link ∈ pairs, link.swap ∉ pairs
  ordered : (pairs.map ManyToMany.entry).Sublist (JoinTable.relationFields models)
  first : ∀ link ∈ pairs, link.swap.IsLink models →
    [link.entry, link.swap.entry].Sublist (JoinTable.relationFields models)

structure Field.Turns (models : List Model) (model : Model) (field other : Field) : Prop where
  kept : (∀ side : ManyToMany, side.IsSide models → side.entry ≠ (model, field)) → other = field
  turned : ∀ side : ManyToMany, side.IsSide models → side.entry = (model, field) →
    other = { field with
      type := side.tableName, relationName := some side.ownRelation,
      relationFromFields := [], relationToFields := [] }

structure Model.OnlyEndsTurn (models : List Model) (model other : Model) : Prop where
  model_eq : other = { model with fields := other.fields }
  fields : List.Forall₂ (Field.Turns models model) model.fields other.fields

namespace JoinTable

open ManyToMany (entry firsts)

theorem collect_of_none {models : List Model} (seen : List String) {fields : List (Model × Field)}
    (h : ∀ place ∈ fields, ManyToMany.ofField? models place.1 place.2 = .ok none) :
    collect models seen fields = .ok [] := by
  induction fields with
  | nil => rfl
  | cons place rest ih =>
    obtain ⟨hplace, hrest⟩ := List.forall_mem_cons.mp h
    rw [collect, hplace]
    exact ih hrest

theorem turnModel_nil (model : Model) : turnModel [] model = model := by
  have hfields : model.fields.map (turnField [] model) = model.fields :=
    List.map_id'' (fun _ => rfl) _
  rw [turnModel, hfields]

theorem synthesize_of_none {models : List Model}
    (h : ∀ model ∈ models, ∀ field ∈ model.relationFields,
      ManyToMany.ofField? models model field = .ok none) :
    synthesize models = .ok (models, []) := by
  have hjoins : ofModels models = .ok [] := by
    refine collect_of_none [] ?_
    rintro ⟨model, field⟩ hplace
    obtain ⟨hmodel, hfield⟩ := mem_relationFields.mp hplace
    exact h model hmodel field hfield
  have hmodels : models.map (turnModel []) = models := List.map_id'' turnModel_nil _
  rw [synthesize, hjoins]
  exact congrArg (fun turned => Except.ok (turned, [])) hmodels

variable {datamodel : Datamodel} {links : List ManyToMany} {joins : List JoinTable}

theorem entries_sublist {models : List Model} {fields : List (Model × Field)}
    {found : List (Option ManyToMany)}
    (h : List.Forall₂ (fun place link => ManyToMany.ofField? models place.1 place.2 = .ok link)
      fields found) : ((found.filterMap id).map entry).Sublist fields := by
  induction h with
  | nil => exact .slnil
  | @cons place link fields found hlink _ ih =>
    cases link with
    | none => exact ih.cons place
    | some link =>
      simp only [List.filterMap_cons, id, List.map_cons, ManyToMany.entry_of_ofField? hlink]
      exact ih.cons_cons place

theorem exists_firstMet (hdistinct : datamodel.Distinct) (hnames : datamodel.PairsNames)
    (h : ofModels datamodel.models = .ok joins) :
    ∃ pairs, Realizes datamodel.models pairs joins ∧ FirstMet datamodel.models pairs := by
  obtain ⟨found, hfound, htables⟩ := collect_eq_ok.mp h
  have hrealizes := realizes_of_found hfound htables
  have hentries := entries_sublist hfound
  refine ⟨_, hrealizes, hrealizes.sound, fun link hlink => ?_, hrealizes.distinct.of_map,
    fun link hlink hswap => ?_, ?_, fun link hlink hswap => ?_⟩
  · obtain ⟨taken, htaken, rfl | rfl⟩ := hrealizes.exists_taken hdistinct hnames hlink
    · exact .inl htaken
    · exact .inr htaken
  · have hspans := (hrealizes.sound link hlink).spans hdistinct
    have hsame := hrealizes.eq_of_relation hlink hswap hspans.swap_relation
    exact hspans.entry_ne (congrArg entry hsame.symm)
  · exact ((ManyToMany.firsts_sublist [] _).map entry).trans hentries
  · -- Both ends of the relation are met, and of those that share a name the first one counts.
    have hspans := (hrealizes.sound link hlink).spans hdistinct
    obtain ⟨front, back, hsplit, hfront⟩ := ManyToMany.exists_split_of_mem_firsts hlink
    obtain ⟨other, hother, hmet⟩ := exists_of_mem_left hfound
      (mem_relationFields.mpr ⟨hswap.model_mem, hswap.field_mem⟩)
    obtain rfl : some link.swap = other := Except.ok.inj (hswap.ofField?.symm.trans hmet)
    have hmem : link.swap ∈ front ++ link :: back :=
      hsplit ▸ List.mem_filterMap.mpr ⟨_, hother, rfl⟩
    have hback : link.swap ∈ back := by
      rcases List.mem_append.mp hmem with hmem | hmem
      · exact absurd hspans.swap_relation (hfront _ hmem)
      · refine (List.mem_cons.mp hmem).resolve_left fun hsame => ?_
        exact hspans.entry_ne (congrArg entry hsame.symm)
    have hpair : [link, link.swap].Sublist (front ++ link :: back) :=
      ((List.singleton_sublist.mpr hback).cons_cons link).trans (List.sublist_append_right front _)
    rw [hsplit] at hentries
    exact (hpair.map entry).trans hentries

theorem Realizes.exists_side (h : Realizes datamodel.models links joins)
    (hdistinct : datamodel.Distinct) (hnames : datamodel.PairsNames) {side : ManyToMany}
    (hside : side.IsSide datamodel.models) : side.Spans datamodel.models ∧
      ∃ made ∈ links, made = side ∨ made = side.swap := by
  rcases hside with hlink | hlink
  · exact ⟨hlink.spans hdistinct, h.exists_taken hdistinct hnames hlink⟩
  · obtain ⟨made, hmade, hsame⟩ := h.exists_taken hdistinct hnames hlink
    exact ⟨(hlink.spans hdistinct).swap, made, hmade, hsame.symm⟩

theorem Realizes.turns (h : Realizes datamodel.models links joins)
    (hdistinct : datamodel.Distinct) (hnames : datamodel.PairsNames) {model : Model}
    (hmodel : model ∈ datamodel.models) {field : Field} (hfield : field ∈ model.fields) :
    Field.Turns datamodel.models model field (turnField joins model field) where
  kept := by
    intro hno
    refine turnField_eq_self fun htakes => ?_
    obtain ⟨link, hlink, hend⟩ := h.takes_iff.mp htakes
    have hsound := h.sound link hlink
    have hrelation := hdistinct.mem_relationFields_of_ends hsound hmodel hfield hend
    rcases hdistinct.eq_of_ends hsound hmodel hrelation hend with ⟨rfl, rfl⟩ | ⟨rfl, rfl⟩
    · exact hno link (.inl hsound) rfl
    · exact hno link.swap (.inr hsound) rfl
  turned := by
    rintro side hside ⟨⟩
    obtain ⟨hspans, made, hmade, hsame⟩ := h.exists_side hdistinct hnames hside
    have hlist : side.field.isList = true := by
      rcases hside with hlink | hlink
      · exact hlink.isList
      · exact hlink.opposite_isList
    rw [h.turnField_eq hdistinct hmade hspans hsame, ManyToMany.turned, hlist]

theorem Realizes.opposite?_left (h : Realizes datamodel.models links joins)
    (hdistinct : datamodel.Distinct) (hnames : datamodel.PairsNames)
    (hseparate : datamodel.SeparatesTables) {model related : Model}
    (hmodel : model ∈ datamodel.models) (hrelated : related ∈ datamodel.models)
    {field opposite : Field} (hfield : field ∈ model.relationFields)
    (hleft : ¬ Takes joins model.name field.name)
    (hopposite : field.opposite? model related = some opposite) :
    field.opposite? (turnModel joins model) (turnModel joins related) = some opposite := by
  have hfree : ¬ Takes joins related.name opposite.name := fun htakes =>
    hleft (h.takes_of_opposite hdistinct hnames hmodel hrelated hfield hopposite htakes)
  rcases opposite?_turned joins model related field with hsame | ⟨other, -, htakes, hsome⟩
  · rw [hsame, Field.opposite?, relationFields_leave]
    exact find?_filter_of_find? hopposite (isLeft_iff.mpr hfree)
  · -- A turned field leads to a join table, so it faces no field of the input.
    obtain ⟨-, -, htype, -⟩ := opposite?_eq_some hsome
    obtain ⟨join, hjoin, _, -, -, -, hturn⟩ := turnField_of_takes htakes
    obtain ⟨link, hlink, htable⟩ := h.exists_link hjoin
    have hsound := h.sound link hlink
    rw [hturn] at htype
    exact absurd (htype.symm.trans (ManyToMany.table_name htable))
      (hseparate link.model hsound.model_mem link.field hsound.field_mem model hmodel)

theorem Realizes.ofField?_context (h : Realizes datamodel.models links joins)
    (hdistinct : datamodel.Distinct) (hnames : datamodel.PairsNames)
    (hseparate : datamodel.SeparatesTables) (config : Config) {model : Model}
    (hmodel : model ∈ context joins datamodel.models) {field : Field}
    (hfield : field ∈ model.relationFields) :
    ManyToMany.ofField? (context joins datamodel.models) model field = .ok none := by
  refine ManyToMany.ofField?_eq_none fun hlist hopen => ?_
  rcases List.mem_append.mp hmodel with hmodel | hmodel
  · obtain ⟨input, hinput, rfl⟩ := List.mem_map.mp hmodel
    rw [relationFields_turnModel] at hfield
    obtain ⟨original, horiginal, rfl⟩ := List.mem_map.mp hfield
    by_cases htakes : Takes joins input.name original.name
    · obtain ⟨made, link, join, hjoin, hserves, rfl, rfl⟩ :=
        h.exists_serves hdistinct hseparate hinput horiginal htakes
      obtain ⟨id, -, hthere⟩ := hserves.exists_holder
      rw [hserves.turnField_eq]
      exact ⟨join.table, link.holder id, hserves.findModel?_table config hjoin, hthere,
        fun hheld => by cases hheld.1⟩
    · rw [turnField_eq_self htakes] at hlist hopen ⊢
      obtain ⟨found, hfound⟩ := h.checked input hinput original horiginal
      obtain ⟨related, opposite, hrelated, hopposite⟩ :=
        ManyToMany.exists_opposite_of_ofField? hfound hlist hopen
      obtain ⟨hmem, hname⟩ := findModel?_eq_some hrelated
      refine ⟨turnModel joins related, opposite, ?_, ?_, fun hboth => htakes ?_⟩
      · rw [← hname]
        exact Schema.findModel?_joined config joins hdistinct hmem
      · exact h.opposite?_left hdistinct hnames hseparate hinput hmem horiginal htakes hopposite
      · have hlink : ManyToMany.IsLink datamodel.models ⟨input, original, related, opposite⟩ :=
          ⟨hinput, horiginal, hlist, hopen, hrelated, hopposite, hboth.1, hboth.2⟩
        obtain ⟨made, hmade, hsame⟩ := h.exists_taken hdistinct hnames hlink
        exact h.takes_iff.mpr
          ⟨made, hmade, (ManyToMany.mem_ends_of_same hsame).mpr List.mem_cons_self⟩
  · obtain ⟨join, hjoin, rfl⟩ := List.mem_map.mp hmodel
    obtain ⟨link, -, htable⟩ := h.exists_link hjoin
    have hsingle := ManyToMany.isList_of_mem_table htable (Model.mem_relationFields.mp hfield).1
    rw [hlist] at hsingle
    cases hsingle

end JoinTable

theorem synthesize_settles {datamodel : Datamodel} {turned tables : List Model}
    (hdistinct : datamodel.Distinct) (hnames : datamodel.PairsNames)
    (hseparate : datamodel.SeparatesTables)
    (h : JoinTable.synthesize datamodel.models = .ok (turned, tables)) :
    List.Forall₂ (Model.OnlyEndsTurn datamodel.models) datamodel.models turned ∧
    (∃ pairs, FirstMet datamodel.models pairs ∧ List.Forall₂ (fun link table =>
      ∃ endpoints, link.joinTable = .ok ⟨table, endpoints⟩) pairs tables) ∧
    JoinTable.synthesize (turned ++ tables) = .ok (turned ++ tables, []) := by
  obtain ⟨joins, hjoins, rfl, rfl⟩ := JoinTable.synthesize_eq_ok.mp h
  obtain ⟨pairs, hrealizes, hmet⟩ := JoinTable.exists_firstMet hdistinct hnames hjoins
  refine ⟨?_, ⟨pairs, hmet, ?_⟩, ?_⟩
  · rw [List.forall₂_map_right_iff, List.forall₂_same]
    intro model hmodel
    refine ⟨rfl, ?_⟩
    rw [JoinTable.turnModel, List.forall₂_map_right_iff, List.forall₂_same]
    exact fun field hfield => hrealizes.turns hdistinct hnames hmodel hfield
  · rw [List.forall₂_map_right_iff]
    exact hrealizes.tables.imp fun link join htable => ⟨join.endpoints, htable⟩
  · exact JoinTable.synthesize_of_none fun model hmodel field hfield =>
      hrealizes.ofField?_context hdistinct hnames hseparate (Config.ofDialect .postgres) hmodel
        hfield

def circles : Datamodel where
  models := [
    { name := "Circle", fields := [
      { name := "id", type := "Int", isId := true },
      { name := "members", kind := .object, type := "User", isList := true,
        relationName := some "Membership" }] },
    Follows.user (Follows.invitations ++ [
      { name := "circles", kind := .object, type := "Circle", isList := true,
        relationName := some "Membership" }])]

theorem circles_synthesize_settles :
    circles.Distinct ∧ circles.PairsNames ∧ circles.SeparatesTables ∧ ∃ turned tables,
      JoinTable.synthesize circles.models = .ok (turned, tables) ∧
      tables.map Model.name = ["_Membership", "_Follows"] ∧
      List.Forall₂ (Model.OnlyEndsTurn circles.models) circles.models turned ∧
      (∃ pairs, FirstMet circles.models pairs ∧ List.Forall₂ (fun link table =>
        ∃ endpoints, link.joinTable = .ok ⟨table, endpoints⟩) pairs tables) ∧
      JoinTable.synthesize (turned ++ tables) = .ok (turned ++ tables, []) := by
  have hdistinct : circles.Distinct := ⟨by decide, by decide⟩
  have hnames : circles.PairsNames := by
    unfold Datamodel.PairsNames
    decide
  have hseparate : circles.SeparatesTables := by
    unfold Datamodel.SeparatesTables
    decide
  have hmade : (JoinTable.synthesize circles.models).toOption.any
      (fun made => made.2.map Model.name = ["_Membership", "_Follows"]) = true := by
    decide
  obtain ⟨⟨turned, tables⟩, h, htables⟩ := exists_of_any hmade
  exact ⟨hdistinct, hnames, hseparate, turned, tables, h, of_decide_eq_true htables,
    synthesize_settles hdistinct hnames hseparate h⟩

end SchemaWriter
