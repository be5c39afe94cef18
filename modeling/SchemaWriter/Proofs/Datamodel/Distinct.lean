import Mathlib.Data.List.Nodup
import Mathlib.Data.List.Perm.Subperm
import SchemaWriter.Proofs.Relation.Synthesis

namespace SchemaWriter

theorem findModel?_map (f : Model → Model) (hname : ∀ model, (f model).name = model.name)
    (name : String) : findModel? (models.map f) name = (findModel? models name).map f := by
  have hsame : ((fun model : Model => decide (model.name = name)) ∘ f) =
      fun model => decide (model.name = name) := by
    funext model
    rw [Function.comp_apply, hname]
  rw [findModel?, findModel?, List.find?_map, hsame]

theorem findModel?_append (models others : List Model) (name : String) :
    findModel? (models ++ others) name = (findModel? models name).or (findModel? others name) :=
  List.find?_append

theorem findModel?_of_nodup {models : List Model} (h : (models.map Model.name).Nodup)
    {model : Model} (hmodel : model ∈ models) : findModel? models model.name = some model :=
  find?_eq_some_of_unique hmodel (decide_eq_true rfl) fun _ hother hname =>
    List.inj_on_of_nodup_map h hother hmodel (of_decide_eq_true hname)

namespace Datamodel

structure Distinct (datamodel : Datamodel) : Prop where
  models : (datamodel.models.map Model.name).Nodup
  fields : ∀ model ∈ datamodel.models, (model.fields.map Field.name).Nodup

variable {datamodel : Datamodel}

theorem Distinct.model_eq (h : datamodel.Distinct) {model other : Model}
    (hmodel : model ∈ datamodel.models) (hother : other ∈ datamodel.models)
    (hname : model.name = other.name) : model = other :=
  List.inj_on_of_nodup_map h.models hmodel hother hname

theorem Distinct.field_eq (h : datamodel.Distinct) {model : Model}
    (hmodel : model ∈ datamodel.models) {field other : Field} (hfield : field ∈ model.relationFields)
    (hother : other ∈ model.relationFields) (hname : field.name = other.name) : field = other :=
  List.inj_on_of_nodup_map (h.fields model hmodel) (Model.mem_relationFields.mp hfield).1
    (Model.mem_relationFields.mp hother).1 hname

theorem Distinct.eq_of_ends (h : datamodel.Distinct) {link : ManyToMany}
    (hlink : link.IsLink datamodel.models) {model : Model} (hmodel : model ∈ datamodel.models)
    {field : Field} (hfield : field ∈ model.relationFields)
    (hend : (model.name, field.name) ∈ link.ends) :
    model = link.model ∧ field = link.field ∨ model = link.related ∧ field = link.opposite := by
  rcases ManyToMany.mem_ends.mp hend with ⟨hname, hsame⟩ | ⟨hname, hsame⟩
  · obtain rfl := h.model_eq hmodel hlink.model_mem hname
    exact .inl ⟨rfl, h.field_eq hmodel hfield hlink.field_mem hsame⟩
  · obtain rfl := h.model_eq hmodel hlink.related_mem hname
    exact .inr ⟨rfl, h.field_eq hmodel hfield hlink.opposite_mem hsame⟩

theorem Distinct.relationName_of_ends (h : datamodel.Distinct) {link : ManyToMany}
    (hlink : link.IsLink datamodel.models) {model : Model} (hmodel : model ∈ datamodel.models)
    {field : Field} (hfield : field ∈ model.relationFields)
    (hend : (model.name, field.name) ∈ link.ends) : field.relationName = link.field.relationName := by
  rcases h.eq_of_ends hlink hmodel hfield hend with ⟨rfl, rfl⟩ | ⟨rfl, rfl⟩
  · rfl
  · exact (opposite?_eq_some hlink.opposite_found).2.1

theorem Distinct.mem_relationFields_of_ends (h : datamodel.Distinct) {link : ManyToMany}
    (hlink : link.IsLink datamodel.models) {model : Model} (hmodel : model ∈ datamodel.models)
    {field : Field} (hfield : field ∈ model.fields)
    (hend : (model.name, field.name) ∈ link.ends) : field ∈ model.relationFields := by
  obtain ⟨other, hother, hname, list, hlist, hsame⟩ := hlink.exists_of_ends hend
  obtain rfl := h.model_eq hother hmodel hname
  have hmem := (Model.mem_relationFields.mp hlist).1
  exact List.inj_on_of_nodup_map (h.fields other hmodel) hmem hfield hsame ▸ hlist

theorem Distinct.findModel? (h : datamodel.Distinct) {model : Model}
    (hmodel : model ∈ datamodel.models) :
    findModel? datamodel.models model.name = some model :=
  findModel?_of_nodup h.models hmodel

theorem Distinct.field? (h : datamodel.Distinct) {model : Model} (hmodel : model ∈ datamodel.models)
    {field : Field} (hfield : field ∈ model.fields) : model.field? field.name = some field :=
  find?_eq_some_of_unique hfield (decide_eq_true rfl) fun _ hother hname =>
    List.inj_on_of_nodup_map (h.fields model hmodel) hother hfield (of_decide_eq_true hname)

def SeparatesTables (datamodel : Datamodel) : Prop :=
  ∀ model ∈ datamodel.models, ∀ field ∈ model.relationFields, ∀ other ∈ datamodel.models,
    other.name ≠ "_" ++ field.relation.name

def PairsNames (datamodel : Datamodel) : Prop :=
  ∀ entry ∈ JoinTable.relationFields datamodel.models,
    (JoinTable.relationFields datamodel.models).countP
      (fun other => other.2.relation.name = entry.2.relation.name) ≤ 2

theorem PairsNames.eq_or_eq (h : datamodel.PairsNames) {x y z : Model × Field}
    (hx : x ∈ JoinTable.relationFields datamodel.models)
    (hy : y ∈ JoinTable.relationFields datamodel.models)
    (hz : z ∈ JoinTable.relationFields datamodel.models)
    (hyx : y.2.relation.name = x.2.relation.name) (hzx : z.2.relation.name = x.2.relation.name)
    (hne : x ≠ y) : z = x ∨ z = y := by
  by_contra hnot
  obtain ⟨hzx', hzy'⟩ := not_or.mp hnot
  have hnodup : [x, y, z].Nodup := by simp [hne, Ne.symm hzx', Ne.symm hzy']
  have hsubset : [x, y, z] ⊆ (JoinTable.relationFields datamodel.models).filter
      (fun other => other.2.relation.name = x.2.relation.name) := by
    simp [hx, hy, hz, hyx, hzx]
  have hlength := (hnodup.subperm hsubset).length_le
  rw [← List.countP_eq_length_filter] at hlength
  have hcount := h x hx
  simp only [List.length_cons, List.length_nil] at hlength
  omega

end Datamodel

end SchemaWriter
