import SchemaWriter.Proofs.Schema.Accepted
import SchemaWriter.Proofs.Schema.WellRelated

namespace SchemaWriter

open Outcome

namespace Failure

def place? : Failure → Option (String × String)
  | .unsupportedType _ model field _ | .directive model field _ _ | .relation model field _
  | .jsonDefault model field _ | .configuration (.relationColumn model field) => some (model, field)
  | .configuration _ | .decode _ => none

def At (model : Model) (field : Field) (failure : Failure) : Prop :=
  failure.place? = some (model.name, field.name)

def Blames (model : Model) (failure : Failure) : Prop :=
  ∀ place, failure.place? = some place → ∃ field ∈ model.fields, (model.name, field.name) = place

def BlamesAmong (models : List Model) (failure : Failure) : Prop :=
  ∃ model ∈ models, failure.Blames model

theorem At.blames {model : Model} {field : Field} {failure : Failure} (h : failure.At model field)
    (hfield : field ∈ model.fields) : failure.Blames model := by
  intro place hplace
  exact ⟨field, hfield, Option.some.inj (h.symm.trans hplace)⟩

theorem blames_turnModel {joins : List JoinTable} {model : Model} {failure : Failure} :
    failure.Blames (JoinTable.turnModel joins model) ↔ failure.Blames model := by
  simp [Blames, JoinTable.turnModel]

end Failure

namespace Field

variable (dialect : Dialect) (model : Model) (field : Field) (mode : DateMode)

theorem directives_failsOnly : FailsOnly (Failure.At model field) (field.directives model) := by
  unfold directives
  cases field.documentation with
  | none => exact .ok _
  | some documentation => exact .mapError fun _ => rfl

theorem constructorCall_failsOnly :
    FailsOnly (Failure.At model field) (field.constructorCall dialect model mode) := by
  unfold constructorCall
  split
  · exact .ok _
  · split
    · exact .ok _
    · exact .error rfl
  · exact .error rfl
  · exact .error rfl

theorem listModifiers_failsOnly :
    FailsOnly (Failure.At model field) (field.listModifiers dialect model) := by
  unfold listModifiers
  split
  · exact .ok _
  · split
    · exact .ok _
    · exact .error rfl

theorem scalarLiteral_failsOnly (value : Json) (scalar : Scalar) :
    FailsOnly (Failure.At model field) (scalarLiteral model field mode value scalar) := by
  by_cases hjson : scalar = .json → ∀ s, value ≠ .string s
  · exact .of_exists (exists_scalarLiteral hjson)
  · push Not at hjson
    obtain ⟨rfl, s, rfl⟩ := hjson
    unfold scalarLiteral
    dsimp only
    split
    · exact .ok _
    · exact .error rfl

theorem single_failsOnly {value : Json} (hitems : ∀ items, value ≠ .array items) :
    FailsOnly (Failure.At model field) (literal model field mode value) := by
  rw [literal]
  · split
    · exact scalarLiteral_failsOnly model field mode value _
    · exact .ok _
  · exact hitems

mutual

theorem literal_failsOnly :
    ∀ value : Json, FailsOnly (Failure.At model field) (literal model field mode value)
  | .array items => by
    rw [literal]
    exact (literals_failsOnly items).map
  | .null => single_failsOnly model field mode (by simp)
  | .bool _ => single_failsOnly model field mode (by simp)
  | .number _ => single_failsOnly model field mode (by simp)
  | .string _ => single_failsOnly model field mode (by simp)
  | .object _ => single_failsOnly model field mode (by simp)

theorem literals_failsOnly :
    ∀ items : List Json, FailsOnly (Failure.At model field) (literals model field mode items)
  | [] => .ok _
  | item :: items => by
    rw [literals]
    exact (literal_failsOnly item).bind fun _ _ => (literals_failsOnly items).bind fun _ _ => .ok _

end

theorem defaultModifiers_failsOnly (directives : Directives) :
    FailsOnly (Failure.At model field) (field.defaultModifiers model directives mode) := by
  unfold defaultModifiers
  split
  · exact .ok _
  · split
    case h_5 => exact (literal_failsOnly model field mode _).map
    all_goals exact .ok _

theorem column_failsOnly :
    FailsOnly (Failure.At model field) (field.column dialect mode model) := by
  unfold column
  refine (directives_failsOnly model field).bind fun directives _ => ?_
  refine FailsOnly.bind ?_ fun _ _ =>
    (defaultModifiers_failsOnly model field _ directives).bind fun _ _ => .ok _
  exact (constructorCall_failsOnly dialect model field _).bind fun _ _ =>
    (listModifiers_failsOnly dialect model field).bind fun _ _ => .ok _

end Field

namespace Model

variable (dialect : Dialect) (mode : DateMode) (model : Model)

theorem columnEntries_failsOnly {fields : List Field} (h : fields ⊆ model.fields) :
    FailsOnly (Failure.Blames model) (model.columnEntries dialect mode fields) := by
  induction fields with
  | nil => exact .ok _
  | cons field rest ih =>
    obtain ⟨hfield, hrest⟩ := List.cons_subset.mp h
    rw [columnEntries]
    refine FailsOnly.bind ?_ fun _ _ => (ih hrest).bind fun _ _ => .ok _
    exact (field.column_failsOnly dialect model mode).mono fun failure hat => hat.blames hfield

theorem keyReferences_failsOnly (names : List String) :
    FailsOnly (Failure.Blames model) (model.keyReferences names) := by
  induction names with
  | nil => exact .ok _
  | cons name rest ih =>
    rw [keyReferences]
    split
    · exact ih.bind fun _ _ => .ok _
    · exact .error (by rintro _ ⟨⟩)

theorem keyArguments_failsOnly :
    FailsOnly (Failure.Blames model) (model.keyArguments dialect) := by
  unfold keyArguments
  split
  · exact .ok _
  · split
    · exact .ok _
    · exact ((keyReferences_failsOnly model _).bind fun _ _ => .ok _).map

theorem declaration_failsOnly :
    FailsOnly (Failure.Blames model) (model.declaration dialect mode) := by
  refine (columnEntries_failsOnly dialect mode model ?_).bind fun _ _ =>
    (keyArguments_failsOnly dialect model).bind fun _ _ => .ok _
  exact List.filter_subset_self _

end Model

namespace JoinTable

variable {models : List Model}

theorem ofField?_failsOnly (model : Model) (field : Field) :
    FailsOnly (Failure.At model field) (ManyToMany.ofField? models model field) := by
  unfold ManyToMany.ofField?
  split
  · exact .ok _
  · split
    · exact .error rfl
    · split
      · exact .error rfl
      · split
        · exact .ok _
        · exact .ok _

theorem joinTable_failsOnly (link : ManyToMany) :
    FailsOnly (Failure.At link.model link.field) link.joinTable := by
  have hid (model : Model) : FailsOnly (Failure.At link.model link.field) (link.idOf model) := by
    unfold ManyToMany.idOf
    split
    · exact .ok _
    · exact .error rfl
  exact (hid _).bind fun _ _ => (hid _).bind fun _ _ => .ok _

theorem collect_failsOnly (seen : List String) {fields : List (Model × Field)}
    (h : fields ⊆ relationFields models) :
    FailsOnly (Failure.BlamesAmong models) (collect models seen fields) := by
  induction fields generalizing seen with
  | nil => exact .ok _
  | cons entry rest ih =>
    obtain ⟨model, field⟩ := entry
    obtain ⟨hentry, hrest⟩ := List.cons_subset.mp h
    obtain ⟨hmodel, hfield⟩ := mem_relationFields.mp hentry
    have hblames (failure : Failure) (hat : failure.At model field) : failure.BlamesAmong models :=
      ⟨model, hmodel, hat.blames (Model.mem_relationFields.mp hfield).1⟩
    rw [collect]
    refine ((ofField?_failsOnly model field).mono hblames).bind fun found hfound => ?_
    cases found with
    | none => exact ih seen hrest
    | some link =>
      dsimp only
      split
      · exact ih seen hrest
      · obtain ⟨-, -, _, _, -, -, -, -, rfl⟩ := ManyToMany.ofField?_eq_some_iff.mp hfound
        refine ((joinTable_failsOnly _).mono hblames).bind fun _ _ => ?_
        exact (ih _ hrest).bind fun _ _ => .ok _

end JoinTable

namespace Schema

theorem resolveAll_failsOnly {schema : Schema} {fields : List (Model × Field)} {P : Failure → Prop}
    (h : ∀ entry ∈ fields, FailsOnly P (schema.resolve entry.1 entry.2)) :
    FailsOnly P (schema.resolveAll fields) := by
  induction fields with
  | nil => exact .ok _
  | cons entry rest ih =>
    obtain ⟨hentry, hrest⟩ := List.forall_mem_cons.mp h
    obtain ⟨model, field⟩ := entry
    rw [resolveAll]
    exact hentry.bind fun _ _ => ih hrest

theorem resolve_failsOnly (schema : Schema) (model : Model) (field : Field) :
    FailsOnly (Failure.At model field) (schema.resolve model field) :=
  .mapError fun _ => rfl

theorem declareTables_failsOnly (schema : Schema) {models : List Model} :
    FailsOnly (Failure.BlamesAmong models) (schema.declareTables models) := by
  suffices h : ∀ rest ⊆ models,
      FailsOnly (Failure.BlamesAmong models) (schema.declareTables rest) from
    h models (List.Subset.refl models)
  intro rest h
  induction rest with
  | nil => exact .ok _
  | cons model rest ih =>
    obtain ⟨hmodel, hrest⟩ := List.cons_subset.mp h
    have htable := (model.declaration_failsOnly schema.config.dialect schema.config.dateMode).mono
      fun failure hblames => (⟨model, hmodel, hblames⟩ : failure.BlamesAmong models)
    rw [declareTables]
    exact (htable.bind fun _ _ => .ok _).bind fun _ _ => (ih hrest).bind fun _ _ => .ok _

end Schema

namespace JoinTable

variable {datamodel : Datamodel} {links : List ManyToMany} {joins : List JoinTable}

theorem ofDatamodel_failsOnly (config : Config) (hdistinct : datamodel.Distinct)
    (hids : datamodel.IdsAreColumns) :
    FailsOnly (Failure.BlamesAmong datamodel.models) (Schema.ofDatamodel config datamodel) := by
  unfold Schema.ofDatamodel
  have hsynthesize : FailsOnly (Failure.BlamesAmong datamodel.models)
      (synthesize datamodel.models) :=
    (collect_failsOnly [] (List.Subset.refl _)).bind fun _ _ => .ok _
  refine hsynthesize.bind ?_
  rintro ⟨_, _⟩ hmade
  obtain ⟨joins, hjoins, rfl, rfl⟩ := synthesize_eq_ok.mp hmade
  obtain ⟨links, hlinks⟩ := ofModels_realizes hjoins
  refine FailsOnly.bind (Schema.resolveAll_failsOnly ?_) fun _ _ => .ok _
  rintro ⟨model, field⟩ hentry
  obtain ⟨hmodel, hfield⟩ := mem_relationFields.mp hentry
  rcases List.mem_append.mp hmodel with hmodel | hmodel
  · obtain ⟨input, hinput, rfl⟩ := List.mem_map.mp hmodel
    refine (Schema.resolve_failsOnly _ _ field).mono fun failure hat => ⟨input, hinput, ?_⟩
    exact Failure.blames_turnModel.mp (hat.blames (Model.mem_relationFields.mp hfield).1)
  · obtain ⟨join, hjoin, rfl⟩ := List.mem_map.mp hmodel
    obtain ⟨related, hrelated⟩ :=
      hlinks.exists_resolve_table hdistinct hids config hjoin hfield
    exact .of_exists ⟨related, mapError_eq_ok.mpr hrelated⟩

theorem Realizes.accepted_table (h : Realizes datamodel.models links joins)
    (hdistinct : datamodel.Distinct) (hids : datamodel.IdsAreColumns) {dialect : Dialect}
    (haccepted : ∀ model ∈ datamodel.models, (turnModel joins model).Accepted dialect)
    {join : JoinTable} (hjoin : join ∈ joins) : join.table.Accepted dialect := by
  obtain ⟨link, hlink, htable⟩ := h.exists_link hjoin
  obtain ⟨aId, bId, ha, hb, rfl⟩ := ManyToMany.joinTable_eq_ok.mp htable
  obtain ⟨hamem, hbmem⟩ := (h.sound link hlink).sides_mem
  have hkey {side : Model} (hside : side ∈ datamodel.models) {id : Field}
      (hid : side.idField? = some id) (name : String) :
      (ManyToMany.keyColumn name id).Accepted dialect := by
    obtain ⟨hmem, hisId⟩ := Model.idField?_eq_some hid
    have hkind := hids side hside id hmem hisId
    have hleft := h.turnField_of_kind hdistinct hside hmem hkind
    have hid : id ∈ (turnModel joins side).fields := List.mem_map.mpr ⟨id, hmem, hleft⟩
    have hcolumn := (haccepted side hside).columns id hid hkind
    refine ⟨?_, hcolumn.typed, hcolumn.enum, ?_, ?_⟩ <;> simp [ManyToMany.keyColumn]
  refine ⟨fun field hfield hkind => ?_, by simp [ManyToMany.table]⟩
  rcases ManyToMany.mem_table_fields.mp hfield with rfl | rfl | rfl | rfl
  · exact hkey hamem ha "A"
  · exact hkey hbmem hb "B"
  · exact absurd rfl hkind
  · exact absurd rfl hkind

theorem Realizes.accepted_joins (h : Realizes datamodel.models links joins)
    (hdistinct : datamodel.Distinct) (hids : datamodel.IdsAreColumns) {config : Config}
    {tables : List Declared} (htables : (Schema.joined config datamodel joins).declareTables
      (Schema.joined config datamodel joins).models = .ok tables) :
    ∀ model ∈ (Schema.joined config datamodel joins).joins, model.Accepted config.dialect := by
  have haccepted : ∀ model ∈ datamodel.models,
      (turnModel joins model).Accepted config.dialect := by
    intro model hmodel
    obtain ⟨one, -, hone⟩ := exists_of_mem_left (Schema.declareTables_eq_ok.mp htables)
      (List.mem_map_of_mem hmodel)
    exact Schema.exists_declareTable_iff.mp ⟨one, hone⟩
  intro model hmodel
  obtain ⟨join, hjoin, rfl⟩ := List.mem_map.mp hmodel
  exact h.accepted_table hdistinct hids haccepted hjoin

end JoinTable

theorem Datamodel.IdsAreColumns.exists_declared {config : Config} {datamodel : Datamodel}
    (hids : datamodel.IdsAreColumns) (hdistinct : datamodel.Distinct) {schema : Schema}
    {tables : List Declared} (hschema : Schema.ofDatamodel config datamodel = .ok schema)
    (htables : schema.declareTables schema.models = .ok tables) :
    (∃ relations, schema.declareAllRelations schema.models = .ok relations) ∧
      ∃ joins, schema.declareJoins schema.joins = .ok joins := by
  obtain ⟨joins, hjoins, rfl, hresolved⟩ := Schema.ofDatamodel_eq_ok.mp hschema
  obtain ⟨links, hlinks⟩ := JoinTable.ofModels_realizes hjoins
  exact ⟨hresolved.exists_declareAllRelations,
    hresolved.exists_declareJoins (hlinks.accepted_joins hdistinct hids htables)⟩

theorem Datamodel.IdsAreColumns.modules_failsOnly {datamodel : Datamodel}
    (hids : datamodel.IdsAreColumns) (hdistinct : datamodel.Distinct) (config : Config) :
    FailsOnly (Failure.BlamesAmong datamodel.models) (datamodel.modules config) := by
  refine (JoinTable.ofDatamodel_failsOnly config hdistinct hids).bind fun schema hschema => ?_
  refine FailsOnly.bind ?_ fun _ _ => .ok _
  refine FailsOnly.bind ?_ fun tables htables => ?_
  · obtain ⟨joins, -, rfl, -⟩ := Schema.ofDatamodel_eq_ok.mp hschema
    refine (Schema.declareTables_failsOnly _).mono ?_
    rintro failure ⟨turned, hturned, hblames⟩
    obtain ⟨input, hinput, rfl⟩ := List.mem_map.mp hturned
    exact ⟨input, hinput, Failure.blames_turnModel.mp hblames⟩
  · obtain ⟨hrelations, hjoins⟩ := hids.exists_declared hdistinct hschema htables
    exact (FailsOnly.of_exists hrelations).bind fun _ _ =>
      (FailsOnly.of_exists hjoins).bind fun _ _ => .ok _

theorem modules_blame {config : Config} {datamodel : Datamodel} (hdistinct : datamodel.Distinct)
    (hids : datamodel.IdsAreColumns) :
    (∀ failure model field, datamodel.modules config = .error failure →
      failure.place? = some (model, field) →
        ∃ input ∈ datamodel.models, input.name = model ∧
          ∃ column ∈ input.fields, column.name = field) ∧
    ∀ schema tables, Schema.ofDatamodel config datamodel = .ok schema →
      schema.declareTables schema.models = .ok tables →
        (∃ relations, schema.declareAllRelations schema.models = .ok relations) ∧
          ∃ joins, schema.declareJoins schema.joins = .ok joins := by
  refine ⟨fun failure model field hfailure hplace => ?_, fun schema tables hschema htables =>
    hids.exists_declared hdistinct hschema htables⟩
  obtain ⟨input, hinput, hblamed⟩ := hids.modules_failsOnly hdistinct config failure hfailure
  obtain ⟨column, hcolumn, hnames⟩ := hblamed _ hplace
  obtain ⟨rfl, rfl⟩ := Prod.mk.inj hnames
  exact ⟨input, hinput, rfl, column, hcolumn, rfl⟩

def codedTags : Datamodel where
  models := [
    { name := "Post", fields := [
      { name := "id", type := "Int", isId := true },
      { name := "tags", kind := .object, type := "Tag", isList := true,
        relationName := some "PostToTag" }] },
    { name := "Tag", fields := [
      { name := "code", kind := .enum, type := "Code", isId := true },
      { name := "posts", kind := .object, type := "Post", isList := true,
        relationName := some "PostToTag" }] }]
  enums := [{ name := "Code", values := [{ name := "RED" }] }]

theorem codedTags_blame :
    codedTags.Distinct ∧ codedTags.IdsAreColumns ∧
    codedTags.modules (Config.ofDialect .sqlite) =
      .error (.unsupportedType .sqlite "Tag" "code" "Code") ∧
    (∃ input ∈ codedTags.models, input.name = "Tag" ∧
      ∃ column ∈ input.fields, column.name = "code") ∧
    ∃ schema tables, Schema.ofDatamodel (Config.ofDialect .postgres) codedTags = .ok schema ∧
      schema.declareTables schema.models = .ok tables ∧
      (∃ relations, schema.declareAllRelations schema.models = .ok relations) ∧
        ∃ joins, schema.declareJoins schema.joins = .ok joins := by
  have hdistinct : codedTags.Distinct := ⟨by decide, by decide⟩
  have hids : codedTags.IdsAreColumns := by
    unfold Datamodel.IdsAreColumns
    decide
  have hfailure : codedTags.modules (Config.ofDialect .sqlite) =
      .error (.unsupportedType .sqlite "Tag" "code" "Code") := rfl
  have hready : (Schema.ofDatamodel (Config.ofDialect .postgres) codedTags).toOption.any
      (fun schema => (schema.declareTables schema.models).isOk) = true := by
    decide
  obtain ⟨schema, hschema, hwritten⟩ := exists_of_any hready
  obtain ⟨tables, htables⟩ := exists_of_isOk hwritten
  exact ⟨hdistinct, hids, hfailure, (modules_blame hdistinct hids).1 _ _ _ hfailure rfl,
    schema, tables, hschema, htables,
    (modules_blame hdistinct hids).2 schema tables hschema htables⟩

end SchemaWriter
