import SchemaWriter.Proofs.Relation.Synthesis

namespace SchemaWriter.JoinTable

variable {models : List Model} {links : List ManyToMany} {joins : List JoinTable}

def Takes (joins : List JoinTable) (model field : String) : Prop :=
  ∃ join ∈ joins, ∃ endpoint ∈ join.endpoints, endpoint.model = model ∧ endpoint.field = field

theorem turn?_eq_none_iff {model : Model} {field : Field} :
    turn? joins model field = none ↔ ¬ Takes joins model.name field.name := by
  simp only [turn?, List.find?_eq_none, List.mem_reverse, List.mem_flatMap, List.mem_map,
    Takes, not_exists, not_and]
  constructor
  · intro h join hjoin endpoint hendpoint hmodel hfield
    exact h (join.table, endpoint) ⟨join, hjoin, endpoint, hendpoint, rfl⟩
      (by simp [hmodel, hfield])
  · rintro h _ ⟨join, hjoin, endpoint, hendpoint, rfl⟩
    simpa using h join hjoin endpoint hendpoint

theorem turn?_eq_some {model table : Model} {field : Field} {endpoint : Endpoint}
    (h : turn? joins model field = some (table, endpoint)) :
    ∃ join ∈ joins, join.table = table ∧ endpoint ∈ join.endpoints ∧
      endpoint.model = model.name ∧ endpoint.field = field.name := by
  have hnames := List.find?_some h
  have hmem := List.mem_of_find?_eq_some h
  simp only [List.mem_reverse, List.mem_flatMap, List.mem_map, Prod.mk.injEq] at hmem
  obtain ⟨join, hjoin, _, hendpoint, htable, rfl⟩ := hmem
  simp only [Bool.and_eq_true, decide_eq_true_eq] at hnames
  exact ⟨join, hjoin, htable, hendpoint, hnames.1, hnames.2⟩

theorem Realizes.takes_iff (h : Realizes models links joins) {model field : String} :
    Takes joins model field ↔ ∃ link ∈ links, (model, field) ∈ link.ends := by
  simp only [← ManyToMany.exists_endpoint_iff]
  constructor
  · rintro ⟨join, hjoin, hendpoint⟩
    obtain ⟨link, hlink, htable⟩ := h.exists_link hjoin
    exact ⟨link, hlink, ManyToMany.join_endpoints htable ▸ hendpoint⟩
  · rintro ⟨link, hlink, hendpoint⟩
    obtain ⟨join, hjoin, htable⟩ := h.exists_join hlink
    exact ⟨join, hjoin, (ManyToMany.join_endpoints htable).symm ▸ hendpoint⟩

@[simp] theorem turnField_name (model : Model) (field : Field) :
    (turnField joins model field).name = field.name := by
  unfold turnField
  split <;> rfl

@[simp] theorem turnField_kind (model : Model) (field : Field) :
    (turnField joins model field).kind = field.kind := by
  unfold turnField
  split <;> rfl

@[simp] theorem turnField_documentation (model : Model) (field : Field) :
    (turnField joins model field).documentation = field.documentation := by
  unfold turnField
  split <;> rfl

@[simp] theorem turnModel_name (model : Model) : (turnModel joins model).name = model.name :=
  rfl

theorem turnField_eq_self {model : Model} {field : Field}
    (h : ¬ Takes joins model.name field.name) : turnField joins model field = field := by
  rw [turnField, turn?_eq_none_iff.mpr h]

theorem relationFields_turnModel (model : Model) :
    (turnModel joins model).relationFields = model.relationFields.map (turnField joins model) := by
  simp [turnModel, Model.relationFields, List.filter_map, Function.comp_def, Field.isRelation]

theorem field?_turnModel (model : Model) (name : String) :
    (turnModel joins model).field? name = (model.field? name).map (turnField joins model) := by
  have hsame : ((fun field : Field => decide (field.name = name)) ∘ turnField joins model) =
      fun field => decide (field.name = name) := by
    funext field
    rw [Function.comp_apply, turnField_name]
  rw [Model.field?, Model.field?, turnModel, List.find?_map, hsame]

theorem turnField_of_takes {model : Model} {field : Field}
    (h : Takes joins model.name field.name) :
    ∃ join ∈ joins, ∃ endpoint ∈ join.endpoints, endpoint.model = model.name ∧
      endpoint.field = field.name ∧ turnField joins model field =
        { field with
          type := join.table.name, relationName := some endpoint.relation, isList := true,
          relationFromFields := [], relationToFields := [] } := by
  cases hturn : turn? joins model field with
  | none => exact absurd h (turn?_eq_none_iff.mp hturn)
  | some found =>
    obtain ⟨table, endpoint⟩ := found
    obtain ⟨join, hjoin, rfl, hendpoint, hmodel, hfield⟩ := turn?_eq_some hturn
    refine ⟨join, hjoin, endpoint, hendpoint, hmodel, hfield, ?_⟩
    rw [turnField, hturn]

end SchemaWriter.JoinTable
