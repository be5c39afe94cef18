import SchemaWriter.Proofs.Relation.Pairing

namespace SchemaWriter

open Outcome

def ManyToManyFree (models : List Model) : Prop :=
  ∀ link : ManyToMany, ¬ link.IsLink models

namespace JoinTable

variable {models : List Model} {links : List ManyToMany} {joins : List JoinTable}

def isLeft (joins : List JoinTable) (model : Model) (field : Field) : Bool :=
  (turn? joins model field).isNone

theorem isLeft_iff {model : Model} {field : Field} :
    isLeft joins model field = true ↔ ¬ Takes joins model.name field.name := by
  rw [isLeft, Option.isNone_iff_eq_none, turn?_eq_none_iff]

def leave (joins : List JoinTable) (model : Model) : Model :=
  { model with fields := model.fields.filter (isLeft joins model) }

theorem relationFields_leave (model : Model) :
    (leave joins model).relationFields = model.relationFields.filter (isLeft joins model) := by
  simp [leave, Model.relationFields, List.filter_filter, Bool.and_comm]

theorem mem_relationFields_leave {model : Model} {field : Field} :
    field ∈ (leave joins model).relationFields ↔
      field ∈ model.relationFields ∧ ¬ Takes joins model.name field.name := by
  rw [relationFields_leave, List.mem_filter, isLeft_iff]

theorem turnField_isOpen {model : Model} {field : Field} (h : Takes joins model.name field.name) :
    (turnField joins model field).isList = true ∧
      (turnField joins model field).relationFromFields = [] := by
  obtain ⟨join, -, endpoint, -, -, -, hturn⟩ := turnField_of_takes h
  rw [hturn]
  exact ⟨rfl, rfl⟩

theorem exists_join_of_takes {model : Model} {field : Field}
    (hfield : field ∈ (turnModel joins model).relationFields)
    (htakes : Takes joins model.name field.name) :
    ∃ join ∈ joins, field.type = join.table.name := by
  rw [relationFields_turnModel] at hfield
  obtain ⟨original, -, rfl⟩ := List.mem_map.mp hfield
  rw [turnField_name] at htakes
  obtain ⟨join, hjoin, endpoint, -, -, -, hturn⟩ := turnField_of_takes htakes
  exact ⟨join, hjoin, by rw [hturn]⟩

theorem find?_turned (joins : List JoinTable) (model : Model) (p : Field → Bool)
    (fields : List Field) :
    (fields.map (turnField joins model)).find? p = (fields.filter (isLeft joins model)).find? p ∨
      ∃ field ∈ fields, Takes joins model.name field.name ∧
        (fields.map (turnField joins model)).find? p = some (turnField joins model field) := by
  -- Both searches meet the fields that are left in the same order; only the first meets others.
  induction fields with
  | nil => exact .inl rfl
  | cons field rest ih =>
    by_cases htakes : Takes joins model.name field.name
    · have hleft : ¬ isLeft joins model field = true := fun h => isLeft_iff.mp h htakes
      by_cases hp : p (turnField joins model field) = true
      · exact .inr ⟨field, List.mem_cons_self, htakes, by simp [hp]⟩
      · rw [List.map_cons, List.find?_cons_of_neg hp, List.filter_cons_of_neg hleft]
        rcases ih with ih | ⟨other, hother, htakes, ih⟩
        · exact .inl ih
        · exact .inr ⟨other, List.mem_cons_of_mem _ hother, htakes, ih⟩
    · rw [List.map_cons, turnField_eq_self htakes, List.filter_cons_of_pos (isLeft_iff.mpr htakes)]
      by_cases hp : p field = true
      · exact .inl (by rw [List.find?_cons_of_pos hp, List.find?_cons_of_pos hp])
      · rw [List.find?_cons_of_neg hp, List.find?_cons_of_neg hp]
        rcases ih with ih | ⟨other, hother, htakes, ih⟩
        · exact .inl ih
        · exact .inr ⟨other, List.mem_cons_of_mem _ hother, htakes, ih⟩

theorem opposite?_turned (joins : List JoinTable) (model related : Model) (field : Field) :
    field.opposite? (turnModel joins model) (turnModel joins related) =
        field.opposite? (leave joins model) (leave joins related) ∨
      ∃ other ∈ related.relationFields, Takes joins related.name other.name ∧
        field.opposite? (turnModel joins model) (turnModel joins related) =
          some (turnField joins related other) := by
  have h := find?_turned joins related
    (field.faces (turnModel joins model) (turnModel joins related)) related.relationFields
  rw [← relationFields_turnModel, ← relationFields_leave] at h
  exact h

def context (joins : List JoinTable) (models : List Model) : List Model :=
  models.map (turnModel joins) ++ joins.map (·.table)

def Unmet (joins : List JoinTable) (models : List Model) : Prop :=
  ∀ link : ManyToMany, link.IsLink (models.map (turnModel joins)) →
    ¬ Takes joins link.model.name link.field.name ∧
    ¬ Takes joins link.related.name link.opposite.name

theorem isLink_context (link : ManyToMany) (h : link.IsLink (models.map (turnModel joins))) :
    link.IsLink (context joins models) where
  model_mem := List.mem_append_left _ h.model_mem
  field_mem := h.field_mem
  isList := h.isList
  isOpen := h.isOpen
  related_found := by rw [context, findModel?_append, h.related_found, Option.some_or]
  opposite_found := h.opposite_found
  opposite_isList := h.opposite_isList
  opposite_free := h.opposite_free

theorem Realizes.isLink_turned (h : Realizes models links joins) {link : ManyToMany}
    (hlink : link.IsLink (context joins models)) :
    link.IsLink (models.map (turnModel joins)) := by
  have hjoin : ∀ table ∈ joins.map (·.table), ∀ field ∈ table.relationFields,
      field.isList = false := by
    intro table htable field hfield
    obtain ⟨join, hjoin, rfl⟩ := List.mem_map.mp htable
    obtain ⟨made, -, hmade⟩ := h.exists_link hjoin
    exact ManyToMany.isList_of_mem_table hmade (Model.mem_relationFields.mp hfield).1
  have hmodel : link.model ∈ models.map (turnModel joins) := by
    rcases List.mem_append.mp hlink.model_mem with hmodel | hmodel
    · exact hmodel
    · have hlist := hjoin _ hmodel _ hlink.field_mem
      rw [hlink.isList] at hlist
      cases hlist
  have hrelated : findModel? (models.map (turnModel joins)) link.field.type =
      some link.related := by
    have hfound := hlink.related_found
    rw [context, findModel?_append] at hfound
    rcases Option.or_eq_some_iff.mp hfound with hfound | ⟨-, hfound⟩
    · exact hfound
    · have hlist := hjoin _ (findModel?_eq_some hfound).1 _ hlink.opposite_mem
      rw [hlink.opposite_isList] at hlist
      cases hlist
  exact { hlink with model_mem := hmodel, related_found := hrelated }

section Map

variable (F : Model → Model) (hname : ∀ model, (F model).name = model.name)

include hname

theorem isLink_map {source target : Model} {field opposite : Field} (hsource : source ∈ models)
    (htarget : findModel? models field.type = some target)
    (hfield : field ∈ (F source).relationFields) (hlist : field.isList = true)
    (hopen : field.relation.isHolder = false)
    (hopposite : field.opposite? (F source) (F target) = some opposite)
    (holist : opposite.isList = true) (hfrom : opposite.relationFromFields = []) :
    ManyToMany.IsLink (models.map F) ⟨F source, field, F target, opposite⟩ where
  model_mem := List.mem_map_of_mem hsource
  field_mem := hfield
  isList := hlist
  isOpen := hopen
  related_found := by
    rw [findModel?_map F hname, htarget]
    rfl
  opposite_found := hopposite
  opposite_isList := holist
  opposite_free := hfrom

theorem exists_of_isLink_map {link : ManyToMany} (h : link.IsLink (models.map F)) :
    ∃ source ∈ models, ∃ target, F source = link.model ∧ F target = link.related ∧
      findModel? models link.field.type = some target := by
  obtain ⟨source, hsource, hmodel⟩ := List.mem_map.mp h.model_mem
  have hrelated := h.related_found
  rw [findModel?_map F hname] at hrelated
  obtain ⟨target, htarget, hrelated⟩ := Option.map_eq_some_iff.mp hrelated
  exact ⟨source, hsource, target, hmodel, hrelated, htarget⟩

end Map

theorem exists_isLink_of_leave {link : ManyToMany} (h : link.IsLink (models.map (leave joins))) :
    ∃ turned : ManyToMany, turned.IsLink (models.map (turnModel joins)) := by
  obtain ⟨source, hsource, target, hmodel, hrelated, htarget⟩ :=
    exists_of_isLink_map (leave joins) (fun _ => rfl) h
  have hfield := h.field_mem
  have hopposite := h.opposite_found
  rw [← hmodel] at hfield hopposite
  rw [← hrelated] at hopposite
  obtain ⟨hfield, hleft⟩ := mem_relationFields_leave.mp hfield
  have hturned : link.field ∈ (turnModel joins source).relationFields := by
    rw [relationFields_turnModel, List.mem_map]
    exact ⟨link.field, hfield, turnField_eq_self hleft⟩
  rcases opposite?_turned joins source target link.field with hsame | ⟨other, -, htakes, hsome⟩
  · exact ⟨_, isLink_map (turnModel joins) (fun _ => rfl) hsource htarget hturned h.isList h.isOpen
      (hsame.trans hopposite) h.opposite_isList h.opposite_free⟩
  · obtain ⟨holist, hfrom⟩ := turnField_isOpen htakes
    exact ⟨_, isLink_map (turnModel joins) (fun _ => rfl) hsource htarget hturned h.isList
      h.isOpen hsome holist hfrom⟩

theorem exists_isLink_leave {link : ManyToMany} (h : link.IsLink (models.map (turnModel joins)))
    (hunmet : Unmet joins models) :
    ∃ left : ManyToMany, left.IsLink (models.map (leave joins)) := by
  obtain ⟨source, hsource, target, hmodel, hrelated, htarget⟩ :=
    exists_of_isLink_map (turnModel joins) (fun _ => rfl) h
  obtain ⟨hfree, hofree⟩ := hunmet link h
  have hfield := h.field_mem
  have hopposite := h.opposite_found
  rw [← hmodel] at hfield hopposite hfree
  rw [← hrelated] at hopposite hofree
  rw [relationFields_turnModel] at hfield
  obtain ⟨field, hmem, hfield⟩ := List.mem_map.mp hfield
  rw [← hfield, turnField_name, turnModel_name] at hfree
  rw [turnField_eq_self hfree] at hfield
  obtain rfl := hfield
  rcases opposite?_turned joins source target link.field with hsame | ⟨other, -, htakes, hsome⟩
  · exact ⟨_, isLink_map (leave joins) (fun _ => rfl) hsource htarget
      (mem_relationFields_leave.mpr ⟨hmem, hfree⟩) h.isList h.isOpen
      (hsame.symm.trans hopposite) h.opposite_isList h.opposite_free⟩
  · rw [← Option.some.inj (hsome.symm.trans hopposite), turnField_name, turnModel_name] at hofree
    exact absurd htakes hofree

theorem Realizes.manyToManyFree_context (h : Realizes models links joins) :
    ManyToManyFree (context joins models) ↔
      ManyToManyFree (models.map (leave joins)) ∧ Unmet joins models := by
  constructor
  · intro hfree
    refine ⟨fun link hlink => ?_, fun link hlink => absurd (isLink_context link hlink) (hfree link)⟩
    obtain ⟨turned, hturned⟩ := exists_isLink_of_leave hlink
    exact hfree turned (isLink_context turned hturned)
  · rintro ⟨hfree, hunmet⟩ link hlink
    obtain ⟨left, hleft⟩ := exists_isLink_leave (h.isLink_turned hlink) hunmet
    exact hfree left hleft

end JoinTable

namespace Datamodel

open JoinTable

variable {datamodel : Datamodel} {links : List ManyToMany} {joins : List JoinTable}

theorem unmet_of_separatesTables (hseparate : datamodel.SeparatesTables)
    (hlinks : Realizes datamodel.models links joins) : Unmet joins datamodel.models := by
  have habsent : ∀ join ∈ joins, ∀ model ∈ datamodel.models, model.name ≠ join.table.name := by
    intro join hjoin model hmodel hname
    obtain ⟨made, hmade, htable⟩ := hlinks.exists_link hjoin
    have hsound := hlinks.sound made hmade
    exact hseparate made.model hsound.model_mem made.field hsound.field_mem model hmodel
      (hname.trans (ManyToMany.table_name htable))
  intro link hlink
  obtain ⟨source, hsource, target, hmodel, hrelated, htarget⟩ :=
    exists_of_isLink_map (turnModel joins) (fun _ => rfl) hlink
  have hfield := hlink.field_mem
  have hother := hlink.opposite_mem
  rw [← hmodel] at hfield
  rw [← hrelated] at hother
  rw [← hmodel, ← hrelated]
  constructor
  · intro htakes
    obtain ⟨join, hjoin, hjoined⟩ := exists_join_of_takes hfield htakes
    obtain ⟨hmem, hname⟩ := findModel?_eq_some htarget
    exact habsent join hjoin target hmem (hname.trans hjoined)
  · intro htakes
    obtain ⟨join, hjoin, hjoined⟩ := exists_join_of_takes hother htakes
    obtain ⟨-, -, htype, -⟩ := opposite?_eq_some hlink.opposite_found
    rw [← hmodel] at htype
    exact habsent join hjoin source hsource (htype.symm.trans hjoined)

def PairsLists (datamodel : Datamodel) : Prop :=
  ∀ link : ManyToMany, link.IsLink datamodel.models → ∀ model ∈ datamodel.models,
    ∀ field ∈ model.relationFields, field.isList = true → field.relation.isHolder = false →
      field.relation.name = link.relation → (model.name, field.name) ∈ link.ends

theorem PairsNames.pairsLists (hnames : datamodel.PairsNames) (hdistinct : datamodel.Distinct) :
    datamodel.PairsLists := by
  intro link hlink model hmodel field hfield _ _ hrelation
  rw [ManyToMany.mem_ends]
  rcases (hlink.spans hdistinct).end_of_relation hnames hmodel hfield hrelation with
    ⟨rfl, rfl⟩ | ⟨rfl, rfl⟩
  · exact .inl ⟨rfl, rfl⟩
  · exact .inr ⟨rfl, rfl⟩

theorem manyToManyFree_leave (hdistinct : datamodel.Distinct) (hpairs : datamodel.PairsLists)
    (hlinks : Realizes datamodel.models links joins) :
    ManyToManyFree (datamodel.models.map (leave joins)) := by
  intro link hlink
  obtain ⟨source, hsource, target, hmodel, hrelated, htarget⟩ :=
    exists_of_isLink_map (leave joins) (fun _ => rfl) hlink
  have hfield := hlink.field_mem
  have hopposite := hlink.opposite_found
  rw [← hmodel] at hfield hopposite
  rw [← hrelated] at hopposite
  obtain ⟨hfield, hfree⟩ := mem_relationFields_leave.mp hfield
  have hfaces : (target.relationFields.find? (link.field.faces source target)).isSome = true :=
    List.find?_isSome.mpr ⟨link.opposite,
      (mem_relationFields_leave.mp (List.mem_of_find?_eq_some hopposite)).1,
      List.find?_some hopposite⟩
  obtain ⟨first, hfirst⟩ := Option.isSome_iff_exists.mp hfaces
  -- The relation has a join table either way, which takes the field as well.
  have hmade : ∃ made ∈ links, made.relation = link.relation := by
    by_cases htakes : Takes joins target.name first.name
    · obtain ⟨made, hmade, hend⟩ := hlinks.takes_iff.mp htakes
      obtain ⟨hmem, hsame, -⟩ := opposite?_eq_some hfirst
      have hname := hdistinct.relationName_of_ends (hlinks.sound made hmade)
        (findModel?_eq_some htarget).1 hmem hend
      refine ⟨made, hmade, ?_⟩
      simp only [ManyToMany.relation, Field.relation, ← hname, hsame]
    · have hleft : (leave joins target).relationFields.find? (link.field.faces source target) =
          some first := by
        rw [relationFields_leave]
        exact find?_filter_of_find? hfirst (isLeft_iff.mpr htakes)
      have hsame : first = link.opposite := Option.some.inj (hleft.symm.trans hopposite)
      exact hlinks.complete ⟨source, link.field, target, first⟩
        ⟨hsource, hfield, hlink.isList, hlink.isOpen, htarget, hfirst,
          hsame ▸ hlink.opposite_isList, hsame ▸ hlink.opposite_free⟩
  obtain ⟨made, hmade, hname⟩ := hmade
  exact hfree (hlinks.takes_iff.mpr ⟨made, hmade, hpairs made (hlinks.sound made hmade) source
    hsource link.field hfield hlink.isList hlink.isOpen hname.symm⟩)

end Datamodel

theorem ofDatamodel_manyToManyFree {config : Config} {datamodel : Datamodel} {schema : Schema}
    (hdistinct : datamodel.Distinct) (h : Schema.ofDatamodel config datamodel = .ok schema) :
    ∃ joins, JoinTable.ofModels datamodel.models = .ok joins ∧
      (ManyToManyFree schema.allModels ↔
        ManyToManyFree (datamodel.models.map (JoinTable.leave joins)) ∧
        JoinTable.Unmet joins datamodel.models) ∧
      (datamodel.PairsLists → datamodel.SeparatesTables → ManyToManyFree schema.allModels) := by
  obtain ⟨joins, hjoins, rfl, -⟩ := Schema.ofDatamodel_eq_ok.mp h
  obtain ⟨links, hlinks⟩ := JoinTable.ofModels_realizes hjoins
  have hexact := hlinks.manyToManyFree_context
  refine ⟨joins, hjoins, hexact, fun hpairs hseparate => hexact.mpr ⟨?_, ?_⟩⟩
  · exact Datamodel.manyToManyFree_leave hdistinct hpairs hlinks
  · exact Datamodel.unmet_of_separatesTables hseparate hlinks

def twoPairs (first second : String) : Datamodel where
  models := [side "A" "b" "B" first, side "B" "a" "A" first, side "C" "d" "D" second,
    side "D" "c" "C" second]
where
  side (name field type relation : String) : Model :=
    { name, fields := [
      { name := "id", type := "Int", isId := true },
      { name := field, kind := .object, type, isList := true, relationName := some relation }] }

theorem twoPairs_manyToManyFree :
    (twoPairs "X" "Y").Distinct ∧ (twoPairs "X" "Y").PairsLists ∧
      (twoPairs "X" "Y").SeparatesTables ∧ ∃ schema,
      Schema.ofDatamodel (Config.ofDialect .postgres) (twoPairs "X" "Y") = .ok schema ∧
      (∃ joins, JoinTable.ofModels (twoPairs "X" "Y").models = .ok joins ∧
        ManyToManyFree ((twoPairs "X" "Y").models.map (JoinTable.leave joins)) ∧
        JoinTable.Unmet joins (twoPairs "X" "Y").models) ∧
      ManyToManyFree schema.allModels := by
  have hdistinct : (twoPairs "X" "Y").Distinct := ⟨by decide, by decide⟩
  have hnames : (twoPairs "X" "Y").PairsNames := by
    unfold Datamodel.PairsNames
    decide
  have hseparate : (twoPairs "X" "Y").SeparatesTables := by
    unfold Datamodel.SeparatesTables
    decide
  have hready :
      (Schema.ofDatamodel (Config.ofDialect .postgres) (twoPairs "X" "Y")).isOk = true := by
    decide
  obtain ⟨schema, h⟩ := exists_of_isOk hready
  obtain ⟨joins, hjoins, hexact, hfree⟩ := ofDatamodel_manyToManyFree hdistinct h
  have hlists := hnames.pairsLists hdistinct
  have hnone := hfree hlists hseparate
  exact ⟨hdistinct, hlists, hseparate, schema, h, ⟨joins, hjoins, hexact.mp hnone⟩, hnone⟩

def isEnd (models : List Model) (entry : Model × Field) : Bool :=
  match ManyToMany.ofField? models entry.1 entry.2 with
  | .ok (some _) => true
  | _ => false

theorem not_manyToManyFree_of_isEnd {models : List Model}
    (h : (JoinTable.relationFields models).any (isEnd models) = true) :
    ¬ ManyToManyFree models := by
  obtain ⟨⟨model, field⟩, hmem, hend⟩ := List.any_eq_true.mp h
  obtain ⟨hmodel, hfield⟩ := JoinTable.mem_relationFields.mp hmem
  unfold isEnd at hend
  split at hend
  · rename_i link hlink
    exact fun hfree => hfree link (ManyToMany.isLink_of_ofField? hmodel hfield hlink)
  · cases hend

theorem twoPairs_not_manyToManyFree :
    (twoPairs "X" "X").Distinct ∧ ∃ schema,
      Schema.ofDatamodel (Config.ofDialect .postgres) (twoPairs "X" "X") = .ok schema ∧
      ¬ ManyToManyFree schema.allModels := by
  refine ⟨⟨by decide, by decide⟩, ?_⟩
  have hleft : (Schema.ofDatamodel (Config.ofDialect .postgres) (twoPairs "X" "X")).toOption.any
      (fun schema => (JoinTable.relationFields schema.allModels).any (isEnd schema.allModels)) =
      true := by
    decide
  obtain ⟨schema, h, hleft⟩ := exists_of_any hleft
  exact ⟨schema, h, not_manyToManyFree_of_isEnd hleft⟩

end SchemaWriter
