import SchemaWriter.Proofs.Schema.References

namespace SchemaWriter

open Outcome

namespace Schema

def LeadsBetween (a b : String) (model : Model) (field : Field) : Prop :=
  model.name = a ∧ field.type = b ∨ model.name = b ∧ field.type = a

theorem leadsBetween_comm {a b : String} {model : Model} {field : Field} :
    LeadsBetween a b model field ↔ LeadsBetween b a model field :=
  or_comm

theorem connects_iff {a b : String} {model : Model} {field : Field} :
    connects a b model field = true ↔ LeadsBetween a b model field := by
  simp [connects, LeadsBetween]

def SeverallyRelated (schema : Schema) (a b : String) : Prop :=
  ∃ model ∈ schema.allModels, ∃ field ∈ model.relationFields, LeadsBetween a b model field ∧
    ∃ other ∈ schema.allModels, ∃ another ∈ other.relationFields, LeadsBetween a b other another ∧
      field.relation.name ≠ another.relation.name

theorem SeverallyRelated.comm {schema : Schema} {a b : String} :
    schema.SeverallyRelated a b ↔ schema.SeverallyRelated b a := by
  simp only [SeverallyRelated, leadsBetween_comm (a := a)]

theorem mem_relationNames {schema : Schema} {a b name : String} :
    name ∈ schema.relationNames a b ↔ ∃ model ∈ schema.allModels, ∃ field ∈ model.relationFields,
      LeadsBetween a b model field ∧ field.relation.name = name := by
  simp only [relationNames, List.mem_flatMap, List.mem_map, List.mem_filter, connects_iff, and_assoc]

theorem one_lt_relationCount_iff {schema : Schema} {a b : String} :
    1 < schema.relationCount a b ↔ schema.SeverallyRelated a b := by
  rw [relationCount, one_lt_length_eraseDups_iff]
  simp only [mem_relationNames]
  constructor
  · rintro ⟨_, ⟨model, hmodel, field, hfield, hleads, rfl⟩, _,
      ⟨other, hother, another, hanother, hleads', rfl⟩, hne⟩
    exact ⟨model, hmodel, field, hfield, hleads, other, hother, another, hanother, hleads', hne⟩
  · rintro ⟨model, hmodel, field, hfield, hleads, other, hother, another, hanother, hleads', hne⟩
    exact ⟨_, ⟨model, hmodel, field, hfield, hleads, rfl⟩, _,
      ⟨other, hother, another, hanother, hleads', rfl⟩, hne⟩

theorem needsName_iff {schema : Schema} {model : Model} {field : Field} :
    schema.needsName model field = true ↔
      model.name = field.type ∨ schema.SeverallyRelated model.name field.type := by
  simp only [needsName, Bool.or_eq_true, decide_eq_true_eq, one_lt_relationCount_iff,
    eq_comm (a := field.type)]

end Schema

def Fragment.relationName? (entry : Fragment) : Option Fragment :=
  entry.options.lookup "relationName"

namespace Schema

theorem relationName?_relationEntry {schema : Schema} {model related : Model} {field : Field} :
    (schema.relationEntry model related field).relationName? =
      if schema.needsName model field then some (.string field.relation.name) else none := by
  have hoptions : (schema.nameOption model field).lookup "relationName" =
      if schema.needsName model field then some (.string field.relation.name) else none := by
    unfold nameOption
    split <;> rfl
  unfold Fragment.relationName?
  cases hholder : field.relation.isHolder with
  | true =>
    rw [options_relationEntry_holder hholder, List.lookup_append, hoptions]
    split <;> rfl
  | false => rw [options_relationEntry_open hholder, hoptions]

def Emits (schema : Schema) (model : Model) (field : Field) (entry : Fragment) : Prop :=
  ∃ declaration entries, schema.relations? model = .ok (some declaration) ∧
    declaration.relations? = some (Naming.tableBinding model.name, entries) ∧
    (field, (field.name, entry)) ∈ model.relationFields.zip entries

theorem relationEntry_of_emits {schema : Schema} {model : Model} {field : Field} {entry : Fragment}
    (h : schema.Emits model field entry) :
    ∃ related, entry = schema.relationEntry model related field := by
  obtain ⟨declaration, entries, hdeclaration, hentries, hzip⟩ := h
  obtain ⟨written, hwritten, -, rfl⟩ := relations?_eq_some.mp hdeclaration
  rw [relations?_relationsFragment] at hentries
  obtain ⟨-, rfl⟩ := Prod.mk.inj (Option.some.inj hentries)
  obtain ⟨related, -, hentry⟩ :=
    (List.forall₂_iff_zip.mp (relationEntries_eq_ok.mp hwritten)).2 hzip
  exact ⟨related, (Prod.mk.inj hentry).2.symm⟩

theorem Resolved.exists_emits {schema : Schema} (h : schema.Resolved) {model : Model}
    (hmodel : model ∈ schema.allModels) {field : Field} (hfield : field ∈ model.relationFields) :
    ∃ entry, schema.Emits model field entry := by
  obtain ⟨entries, hentries⟩ := h.exists_entries hmodel
  have hforall := relationEntries_eq_ok.mp hentries
  obtain ⟨entry, hzip⟩ := exists_zip_of_mem_left hforall hfield
  obtain ⟨related, -, rfl⟩ := (List.forall₂_iff_zip.mp hforall).2 hzip
  have hne : entries ≠ [] := List.ne_nil_of_mem (List.of_mem_zip hzip).2
  exact ⟨_, _, entries, relations?_eq_some.mpr ⟨entries, hentries, hne, rfl⟩,
    relations?_relationsFragment model entries, hzip⟩

structure NamesRelation (schema : Schema) (model related : Model) (field : Field) : Prop where
  emitted : ∃ entry, schema.Emits model field entry
  named : model.name = related.name ∨ schema.SeverallyRelated model.name related.name →
    ∀ entry, schema.Emits model field entry →
      entry.relationName? = some (.string field.relation.name)
  unnamed : ¬ (model.name = related.name ∨ schema.SeverallyRelated model.name related.name) →
    ∀ entry, schema.Emits model field entry → entry.relationName? = none
  paired : ∀ opposite, field.opposite? model related = some opposite →
    (∃ back, schema.Emits related opposite back) ∧
    ∀ entry back, schema.Emits model field entry → schema.Emits related opposite back →
      back.relationName? = entry.relationName?

theorem relationName?_of_emits {schema : Schema} {model : Model} {field : Field} {entry : Fragment}
    (h : schema.Emits model field entry) : entry.relationName? =
      if schema.needsName model field then some (.string field.relation.name) else none := by
  obtain ⟨related, rfl⟩ := relationEntry_of_emits h
  exact relationName?_relationEntry

theorem needsName_opposite (schema : Schema) {model related : Model} {field opposite : Field}
    (htype : field.type = related.name) (h : field.opposite? model related = some opposite) :
    schema.needsName related opposite = schema.needsName model field := by
  obtain ⟨-, -, hback, -⟩ := opposite?_eq_some h
  rw [Bool.eq_iff_iff, needsName_iff, needsName_iff, hback, htype, SeverallyRelated.comm,
    eq_comm (a := related.name)]

end Schema

theorem ofDatamodel_namesRelation {config : Config} {datamodel : Datamodel} {schema : Schema}
    (h : Schema.ofDatamodel config datamodel = .ok schema) {model : Model}
    (hmodel : model ∈ schema.allModels) {field : Field} (hfield : field ∈ model.relationFields) :
    ∃ related, schema.findModel? field.type = some related ∧
      schema.NamesRelation model related field := by
  obtain ⟨-, -, -, hresolved⟩ := Schema.ofDatamodel_eq_ok.mp h
  obtain ⟨related, hrelated⟩ := hresolved model hmodel field hfield
  have hfound := (Field.resolve_eq_ok.mp hrelated).1
  obtain ⟨hmem, hname⟩ := findModel?_eq_some hfound
  refine ⟨related, hfound, hresolved.exists_emits hmodel hfield, fun hneeds entry hentry => ?_,
    fun hneeds entry hentry => ?_, fun opposite hopposite => ⟨?_, fun entry back hentry hback => ?_⟩⟩
  · rw [hname, ← Schema.needsName_iff] at hneeds
    rw [Schema.relationName?_of_emits hentry, if_pos hneeds]
  · rw [hname, ← Schema.needsName_iff] at hneeds
    rw [Schema.relationName?_of_emits hentry, if_neg hneeds]
  · exact hresolved.exists_emits hmem (opposite?_eq_some hopposite).1
  · have hsame : opposite.relation.name = field.relation.name :=
      congrArg (·.getD "") (opposite?_eq_some hopposite).2.1
    rw [Schema.relationName?_of_emits hentry, Schema.relationName?_of_emits hback,
      schema.needsName_opposite hname.symm hopposite, hsame]

namespace Reviews

def list (name relation : String) : Field :=
  { name, kind := .object, type := "Post", isList := true, relationName := some relation }

def holder (name key relation : String) : Field :=
  { name, kind := .object, type := "User", relationName := some relation,
    relationFromFields := [key], relationToFields := ["id"] }

def user : Model :=
  { name := "User", fields := [
    { name := "id", type := "Int", isId := true },
    list "written" "author",
    list "reviewed" "reviewer"] }

def post : Model :=
  { name := "Post", fields := [
    { name := "id", type := "Int", isId := true },
    { name := "authorId", type := "Int" },
    { name := "reviewerId", type := "Int" },
    holder "author" "authorId" "author",
    holder "reviewer" "reviewerId" "reviewer"] }

def schema : Schema where
  config := Config.ofDialect .mysql
  models := [user, post]
  joins := []
  enums := []

end Reviews

theorem reviews_namesRelation :
    Schema.ofDatamodel (Config.ofDialect .mysql) { models := [Reviews.user, Reviews.post] } =
        .ok Reviews.schema ∧
      Reviews.user ∈ Reviews.schema.allModels ∧
      Reviews.list "written" "author" ∈ Reviews.user.relationFields ∧
      ∃ related, Reviews.schema.findModel? "Post" = some related ∧
        Reviews.schema.NamesRelation Reviews.user related (Reviews.list "written" "author") := by
  have hschema : Schema.ofDatamodel (Config.ofDialect .mysql)
      { models := [Reviews.user, Reviews.post] } = .ok Reviews.schema := rfl
  have hmodel : Reviews.user ∈ Reviews.schema.allModels := List.mem_cons_self
  have hfield : Reviews.list "written" "author" ∈ Reviews.user.relationFields := List.mem_cons_self
  exact ⟨hschema, hmodel, hfield, ofDatamodel_namesRelation hschema hmodel hfield⟩

end SchemaWriter
