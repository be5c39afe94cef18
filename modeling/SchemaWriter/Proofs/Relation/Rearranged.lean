import SchemaWriter.Proofs.Relation.Pairing

namespace SchemaWriter

open Outcome

theorem findModel?_perm {models others : List Model} (hperm : models.Perm others)
    (hnodup : (models.map Model.name).Nodup) (name : String) :
    findModel? models name = findModel? others name := by
  cases hfound : findModel? models name with
  | none =>
    refine (List.find?_eq_none.mpr fun model hmodel => ?_).symm
    exact List.find?_eq_none.mp hfound model (hperm.mem_iff.mpr hmodel)
  | some model =>
    obtain ⟨hmodel, hname⟩ := findModel?_eq_some hfound
    refine (find?_eq_some_of_unique (hperm.mem_iff.mp hmodel) (decide_eq_true hname) ?_).symm
    intro other hother hsame
    refine List.inj_on_of_nodup_map hnodup (hperm.mem_iff.mpr hother) hmodel ?_
    exact (of_decide_eq_true hsame).trans hname.symm

namespace Datamodel

variable {datamodel rearranged : Datamodel}

theorem Distinct.of_perm (h : datamodel.Distinct)
    (hperm : datamodel.models.Perm rearranged.models) : rearranged.Distinct where
  models := ((hperm.map Model.name).nodup_iff).mp h.models
  fields := fun model hmodel => h.fields model (hperm.mem_iff.mpr hmodel)

theorem PairsNames.of_perm (h : datamodel.PairsNames)
    (hperm : datamodel.models.Perm rearranged.models) : rearranged.PairsNames := by
  have hfields : (JoinTable.relationFields datamodel.models).Perm
      (JoinTable.relationFields rearranged.models) :=
    hperm.flatMap_right _
  intro entry hentry
  rw [← hfields.countP_eq]
  exact h entry (hfields.mem_iff.mpr hentry)

end Datamodel

namespace ManyToMany

variable {models others : List Model}

theorem ofField?_perm (hperm : models.Perm others) (hnodup : (models.map Model.name).Nodup)
    (model : Model) (field : Field) : ofField? models model field = ofField? others model field := by
  rw [ofField?, ofField?, findModel?_perm hperm hnodup]

theorem IsLink.of_perm (hperm : models.Perm others) (hnodup : (models.map Model.name).Nodup)
    {link : ManyToMany} (h : link.IsLink models) : link.IsLink others :=
  { h with
    model_mem := hperm.mem_iff.mp h.model_mem
    related_found := (findModel?_perm hperm hnodup _).symm.trans h.related_found }

end ManyToMany

namespace JoinTable

variable {links links' : List ManyToMany} {joins joins' : List JoinTable}

theorem Realizes.of_perm {models others : List Model} (h : Realizes models links joins)
    (hperm : models.Perm others) (hnodup : (models.map Model.name).Nodup) :
    Realizes others links joins where
  tables := h.tables
  sound := fun link hlink => (h.sound link hlink).of_perm hperm hnodup
  distinct := h.distinct
  complete := fun link hlink =>
    h.complete link (hlink.of_perm hperm.symm (((hperm.map Model.name).nodup_iff).mp hnodup))
  checked := fun model hmodel field hfield => by
    rw [← ManyToMany.ofField?_perm hperm hnodup]
    exact h.checked model (hperm.mem_iff.mpr hmodel) field hfield

variable {datamodel : Datamodel}

theorem Realizes.exists_taken (h : Realizes datamodel.models links joins)
    (hdistinct : datamodel.Distinct) (hnames : datamodel.PairsNames) {link : ManyToMany}
    (hlink : link.IsLink datamodel.models) : ∃ taken ∈ links, taken = link ∨ taken = link.swap := by
  obtain ⟨taken, htaken, hrelation⟩ := h.complete link hlink
  exact ⟨taken, htaken, (hlink.spans hdistinct).eq_or_eq_swap hnames
    ((h.sound taken htaken).spans hdistinct) hrelation⟩

theorem Realizes.exists_join_of_isLink (h : Realizes datamodel.models links joins)
    (hdistinct : datamodel.Distinct) (hnames : datamodel.PairsNames) {link : ManyToMany}
    (hlink : link.IsLink datamodel.models) :
    ∃ join ∈ joins, ∃ own, link.joinTable = .ok own ∧ own.table = join.table := by
  obtain ⟨taken, htaken, hsame⟩ := h.exists_taken hdistinct hnames hlink
  obtain ⟨join, hjoin, htable⟩ := h.exists_join htaken
  refine ⟨join, hjoin, ?_⟩
  rcases hsame with rfl | rfl
  · exact ⟨join, htable, rfl⟩
  · exact (hlink.spans hdistinct).swap.toProper.exists_swap_joinTable htable

theorem Realizes.exists_ofModels (h : Realizes datamodel.models links joins)
    (hdistinct : datamodel.Distinct) (hnames : datamodel.PairsNames) :
    ∃ made, ofModels datamodel.models = .ok made := by
  refine JoinTable.exists_ofModels h.checked fun link hlink => ?_
  obtain ⟨join, -, own, hown, -⟩ := h.exists_join_of_isLink hdistinct hnames hlink
  exact ⟨own, hown⟩

-- The first relation of a name may be found from either of its ends.
theorem Realizes.tables_subset (h : Realizes datamodel.models links joins)
    (h' : Realizes datamodel.models links' joins') (hdistinct : datamodel.Distinct)
    (hnames : datamodel.PairsNames) : joins.map (·.table) ⊆ joins'.map (·.table) := by
  intro table htable
  obtain ⟨join, hjoin, rfl⟩ := List.mem_map.mp htable
  obtain ⟨link, hlink, hmade⟩ := h.exists_link hjoin
  obtain ⟨join', hjoin', own, hown, hsame⟩ :=
    h'.exists_join_of_isLink hdistinct hnames (h.sound link hlink)
  obtain rfl := Except.ok.inj (hown.symm.trans hmade)
  exact List.mem_map.mpr ⟨join', hjoin', hsame.symm⟩

theorem Realizes.tables_perm (h : Realizes datamodel.models links joins)
    (h' : Realizes datamodel.models links' joins') (hdistinct : datamodel.Distinct)
    (hnames : datamodel.PairsNames) : (joins.map (·.table)).Perm (joins'.map (·.table)) :=
  (List.perm_ext_iff_of_nodup h.nodup_table_names.of_map h'.nodup_table_names.of_map).mpr
    fun _ => ⟨fun htable => h.tables_subset h' hdistinct hnames htable,
      fun htable => h'.tables_subset h hdistinct hnames htable⟩

theorem Realizes.takes_of_takes (h : Realizes datamodel.models links joins)
    (h' : Realizes datamodel.models links' joins') (hdistinct : datamodel.Distinct)
    (hnames : datamodel.PairsNames) {model field : String} (htakes : Takes joins model field) :
    Takes joins' model field := by
  obtain ⟨link, hlink, hend⟩ := h.takes_iff.mp htakes
  obtain ⟨taken, htaken, hsame⟩ := h'.exists_taken hdistinct hnames (h.sound link hlink)
  exact h'.takes_iff.mpr ⟨taken, htaken, (ManyToMany.mem_ends_of_same hsame).mpr hend⟩

theorem Realizes.turnField_eq_turnField (h : Realizes datamodel.models links joins)
    (h' : Realizes datamodel.models links' joins') (hdistinct : datamodel.Distinct)
    (hnames : datamodel.PairsNames) {model : Model} (hmodel : model ∈ datamodel.models)
    {field : Field} (hfield : field ∈ model.fields) :
    turnField joins model field = turnField joins' model field := by
  by_cases htakes : Takes joins model.name field.name
  · obtain ⟨link, hlink, hend⟩ := h.takes_iff.mp htakes
    have hrelation := hdistinct.mem_relationFields_of_ends (h.sound link hlink) hmodel hfield hend
    obtain ⟨made, hmade, list, hspans, hsame, rfl, rfl⟩ :=
      h.exists_end hdistinct hmodel hrelation htakes
    obtain ⟨taken, htaken, hother⟩ := h'.exists_taken hdistinct hnames (h.sound made hmade)
    have hboth : taken = list ∨ taken = list.swap := by
      rcases hsame with rfl | rfl
      · exact hother
      · exact hother.symm
    rw [h.turnField_eq hdistinct hmade hspans hsame, h'.turnField_eq hdistinct htaken hspans hboth]
  · have htakes' : ¬ Takes joins' model.name field.name :=
      fun htakes' => htakes (h'.takes_of_takes h hdistinct hnames htakes')
    rw [turnField_eq_self htakes, turnField_eq_self htakes']

theorem Realizes.turnModel_eq_turnModel (h : Realizes datamodel.models links joins)
    (h' : Realizes datamodel.models links' joins') (hdistinct : datamodel.Distinct)
    (hnames : datamodel.PairsNames) {model : Model} (hmodel : model ∈ datamodel.models) :
    turnModel joins model = turnModel joins' model := by
  rw [turnModel, turnModel, List.map_congr_left fun field hfield =>
    h.turnField_eq_turnField h' hdistinct hnames hmodel hfield]

end JoinTable

end SchemaWriter
