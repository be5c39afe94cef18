import SchemaWriter.Proofs.Column.Constructed
import SchemaWriter.Proofs.Relation.Pairing
import SchemaWriter.Proofs.Schema.EnumDefaults

namespace SchemaWriter

open Outcome

theorem Scalar.ofName?_underscore (name : String) : ofName? ("_" ++ name) = none := by
  unfold ofName?
  split
  case h_10 => rfl
  all_goals
    rename_i h
    exact absurd (congrArg (·.toList.head?) h) (by simp)

namespace ManyToMany

structure KeyOf (table : Model) (name : String) (side : Model) (id : Field) : Prop where
  id_found : side.idField? = some id
  key_found : table.field? name = some (keyColumn name id)
  holder_found : ∃ field relation, table.relationFields.find? (·.relationFromFields = [name]) =
    some (holderField field side.name relation name id.name)

theorem joinTable_keyOf {models : List Model} {link : ManyToMany} (hlink : link.IsLink models)
    {join : JoinTable} (h : link.joinTable = .ok join) {name : String} (hname : name ∈ ["A", "B"]) :
    ∃ side ∈ models, ∃ id, KeyOf join.table name side id := by
  obtain ⟨aId, bId, ha, hb, rfl⟩ := joinTable_eq_ok.mp h
  obtain ⟨hamem, hbmem⟩ := hlink.sides_mem
  rcases List.mem_pair.mp hname with rfl | rfl
  · refine ⟨_, hamem, aId, ha, rfl, (sideFields link.sides.1 link.sides.2).1,
      link.sideRelations.1, ?_⟩
    simp [Model.relationFields, List.find?_filter, table_fields, keyColumn, holderField,
      Field.isRelation]
  · refine ⟨_, hbmem, bId, hb, rfl, (sideFields link.sides.1 link.sides.2).2,
      link.sideRelations.2, ?_⟩
    simp [Model.relationFields, List.find?_filter, table_fields, keyColumn, holderField,
      Field.isRelation]

end ManyToMany

namespace JoinTable

variable {joins : List JoinTable}

@[simp] theorem turnField_isId (model : Model) (field : Field) :
    (turnField joins model field).isId = field.isId := by
  unfold turnField
  split <;> rfl

theorem idField?_turnModel (model : Model) :
    (turnModel joins model).idField? = model.idField?.map (turnField joins model) := by
  have hids : (turnModel joins model).fields.filter (·.isId) =
      (model.fields.filter (·.isId)).map (turnField joins model) := by
    simp [turnModel, List.filter_map, Function.comp_def]
  unfold Model.idField?
  rw [hids]
  rcases hfields : model.fields.filter (·.isId) with _ | ⟨id, _ | ⟨other, ids⟩⟩ <;>
    rw [hfields] <;> rfl

theorem Realizes.turnField_type {models : List Model} {links : List ManyToMany}
    (h : Realizes models links joins) (model : Model) (field : Field) :
    (turnField joins model field).type = field.type ∨
      Scalar.ofName? (turnField joins model field).type = none := by
  by_cases htakes : Takes joins model.name field.name
  · obtain ⟨join, hjoin, endpoint, -, -, -, hturn⟩ := turnField_of_takes htakes
    obtain ⟨link, -, htable⟩ := h.exists_link hjoin
    right
    rw [hturn, ManyToMany.table_name htable]
    exact Scalar.ofName?_underscore link.relation
  · exact .inl (by rw [turnField_eq_self htakes])

end JoinTable

namespace Schema

structure JoinKey (schema : Schema) (declared : List Fragment) (table : Model) (name : String)
    (key : Field) (target : Model) (id : Field) (keyColumn idColumn : Fragment) : Prop where
  key_found : table.field? name = some key
  holder_found : ∃ holder,
    table.relationFields.find? (·.relationFromFields = [name]) = some holder ∧
    schema.findModel? holder.type = some target ∧ holder.relationToFields = [id.name]
  id_found : target.idField? = some id
  key_written : schema.Writes declared table key keyColumn
  id_written : schema.Writes declared target id idColumn

section

variable {config : Config} {datamodel : Datamodel} {joins : List JoinTable} {table side : Model}
  {name : String} {id : Field}

theorem Resolved.keyColumn_kind {schema : Schema} (h : schema.Resolved)
    (htable : table ∈ schema.allModels) (hkey : ManyToMany.KeyOf table name side id) :
    id.kind ≠ .object := by
  obtain ⟨field, relation, hholder⟩ := hkey.holder_found
  obtain ⟨related, hresolve⟩ := h table htable _ (List.mem_of_find?_eq_some hholder)
  obtain ⟨-, hcolumns, -⟩ := Field.resolve_eq_ok.mp hresolve
  obtain ⟨-, hown, -⟩ := hcolumns rfl
  obtain ⟨column, hcolumn, hkind⟩ := Model.hasColumn_iff.mp (hown name (List.mem_singleton_self _))
  obtain rfl := Option.some.inj (hkey.key_found.symm.trans hcolumn)
  exact hkind

section

variable (hnames : (datamodel.models.map Model.name).Nodup) (hside : side ∈ datamodel.models)
  (hkey : ManyToMany.KeyOf table name side id)
include hnames hside hkey

theorem joinKey_iff {declared : List Fragment} {key turned : Field} {target : Model}
    {keyColumn idColumn : Fragment} :
    (joined config datamodel joins).JoinKey declared table name key target turned keyColumn
        idColumn ↔
      key = ManyToMany.keyColumn name id ∧ target = JoinTable.turnModel joins side ∧
      turned = JoinTable.turnField joins side id ∧
      (joined config datamodel joins).Writes declared table key keyColumn ∧
      (joined config datamodel joins).Writes declared target turned idColumn := by
  obtain ⟨field, relation, hholder⟩ := hkey.holder_found
  have htarget := findModel?_turned config joins hnames hside
  have hid : (JoinTable.turnModel joins side).idField? =
      some (JoinTable.turnField joins side id) := by
    rw [JoinTable.idField?_turnModel, hkey.id_found]
    rfl
  constructor
  · rintro ⟨hfound, ⟨holder, hholder', htarget', -⟩, hid', hwritten, hidWritten⟩
    obtain rfl := Option.some.inj (hkey.key_found.symm.trans hfound)
    obtain rfl := Option.some.inj (hholder.symm.trans hholder')
    obtain rfl := Option.some.inj (htarget.symm.trans htarget')
    obtain rfl := Option.some.inj (hid.symm.trans hid')
    exact ⟨rfl, rfl, rfl, hwritten, hidWritten⟩
  · rintro ⟨rfl, rfl, rfl, hwritten, hidWritten⟩
    refine ⟨hkey.key_found, ⟨_, hholder, htarget, ?_⟩, hid, hwritten, hidWritten⟩
    rw [JoinTable.turnField_name]
    rfl

end

theorem exists_keyOf {schema : Schema} (hschema : ofDatamodel config datamodel = .ok schema)
    (htable : table ∈ schema.joins) (hname : name ∈ ["A", "B"]) :
    ∃ joins links, schema = joined config datamodel joins ∧
      JoinTable.Realizes datamodel.models links joins ∧
      ∃ side ∈ datamodel.models, ∃ id, ManyToMany.KeyOf table name side id ∧ id.kind ≠ .object := by
  obtain ⟨joins, hjoins, rfl, hresolved⟩ := ofDatamodel_eq_ok.mp hschema
  obtain ⟨links, hrealizes⟩ := JoinTable.ofModels_realizes hjoins
  obtain ⟨join, hjoin, rfl⟩ := List.mem_map.mp htable
  obtain ⟨link, hlink, hmade⟩ := hrealizes.exists_link hjoin
  obtain ⟨side, hside, id, hkey⟩ :=
    ManyToMany.joinTable_keyOf (hrealizes.sound link hlink) hmade hname
  exact ⟨joins, links, rfl, hrealizes, side, hside, id, hkey,
    hresolved.keyColumn_kind (List.mem_append_right _ htable) hkey⟩

section

variable {schema : Schema} {declared : List Fragment}
  (hnames : (datamodel.models.map Model.name).Nodup)
  (hschema : ofDatamodel config datamodel = .ok schema) (htable : table ∈ schema.joins)
  (hname : name ∈ ["A", "B"])
include hnames hschema htable hname

theorem exists_joinKey {d : Declarations} (hd : schema.declarations = .ok d)
    (hdeclared : ∀ one ∈ d.modular, one.declaration ∈ declared) :
    ∃ key target id keyColumn idColumn,
      schema.JoinKey declared table name key target id keyColumn idColumn := by
  obtain ⟨joins, links, rfl, -, side, hside, id, hkey, hkind⟩ :=
    exists_keyOf hschema htable hname
  have hturned : JoinTable.turnModel joins side ∈ (joined config datamodel joins).allModels :=
    List.mem_append_left _ (List.mem_map_of_mem hside)
  have hid : JoinTable.turnField joins side id ∈ (JoinTable.turnModel joins side).columns := by
    refine List.mem_filter.mpr ⟨List.mem_map_of_mem (Model.idField?_eq_some hkey.id_found).1, ?_⟩
    simpa [Field.isRelation] using hkind
  have hcolumn : ManyToMany.keyColumn name id ∈ table.columns := by
    have hkeyKind : (ManyToMany.keyColumn name id).kind ≠ .object := hkind
    refine List.mem_filter.mpr ⟨List.mem_of_find?_eq_some hkey.key_found, ?_⟩
    simpa [Field.isRelation] using hkeyKind
  obtain ⟨idColumn, hidColumn⟩ := exists_writes hd hdeclared hturned hid
  obtain ⟨keyColumn, hkeyColumn⟩ :=
    exists_writes hd hdeclared (List.mem_append_right _ htable) hcolumn
  exact ⟨_, _, _, _, _, (joinKey_iff hnames hside hkey).mpr ⟨rfl, rfl, rfl, hkeyColumn, hidColumn⟩⟩

theorem JoinKey.sameCall_iff {key turned : Field} {target : Model} {keyColumn idColumn : Fragment}
    (h : schema.JoinKey declared table name key target turned keyColumn idColumn) :
    (keyColumn.SameCall name idColumn turned.columnName ↔
      key.TypesAgree config.dateMode target turned) ∧
    (datamodel.Distinct → turned.type = key.type) := by
  obtain ⟨joins, links, rfl, hrealizes, side, hside, id, hkey, hkind⟩ :=
    exists_keyOf hschema htable hname
  obtain ⟨rfl, rfl, rfl, hkeyWritten, hidWritten⟩ := (joinKey_iff hnames hside hkey).mp h
  obtain ⟨keyColumn, hkeyColumn, rfl⟩ := hkeyWritten.exists_column
  obtain ⟨idColumn, hidColumn, rfl⟩ := hidWritten.exists_column
  have hplain : (ManyToMany.keyColumn name id).documentation = none := rfl
  refine ⟨Field.sameCall_iff hplain (JoinTable.turnField_kind side id).symm
    (hrealizes.turnField_type side id) hkeyColumn hidColumn, fun hdistinct => ?_⟩
  have hmem := (Model.idField?_eq_some hkey.id_found).1
  rw [hrealizes.turnField_of_kind hdistinct hside hmem hkind]
  rfl

end

end

end Schema

theorem modules_joinKeys_iff {config : Config} {datamodel : Datamodel} {modules : List Module}
    (hnames : (datamodel.models.map Model.name).Nodup)
    (h : datamodel.modules config = .ok modules) :
    ∃ schema, Schema.ofDatamodel config datamodel = .ok schema ∧
      ∀ table ∈ schema.joins, ∀ name ∈ ["A", "B"],
        (∃ key target id keyColumn idColumn, schema.JoinKey (modules.flatMap Module.declarations)
          table name key target id keyColumn idColumn) ∧
        ∀ key target id keyColumn idColumn, schema.JoinKey (modules.flatMap Module.declarations)
            table name key target id keyColumn idColumn →
          (keyColumn.SameCall name idColumn id.columnName ↔
            key.TypesAgree config.dateMode target id) ∧
          (datamodel.Distinct → id.type = key.type) := by
  obtain ⟨schema, d, hschema, hd, rfl⟩ := Datamodel.modules_eq_ok.mp h
  refine ⟨schema, hschema, fun table htable name hname => ⟨?_, fun _ _ _ _ _ hkey => ?_⟩⟩
  · exact Schema.exists_joinKey hnames hschema htable hname hd
      fun _ => Declarations.declaration_mem
  · exact hkey.sameCall_iff hnames hschema htable hname

namespace DayEvents

def dayId (documentation : Option String) : Field :=
  { name := "at", dbName := some "day_at", type := "DateTime", isId := true, isRequired := true,
    documentation }

def lists (name type : String) : Field :=
  { name, kind := .object, type, isList := true, relationName := some "Held" }

def day (documentation : Option String) (events : Field) : Model :=
  { name := "Day", fields := [dayId documentation, events] }

def event (days : Field) : Model :=
  { name := "Event", fields := [{ name := "id", type := "Int", isId := true }, days] }

def datamodel (documentation : Option String) : Datamodel where
  models := [day documentation (lists "events" "Event"), event (lists "days" "Day")]

def held : Model :=
  { name := "_Held"
    fields := [
      { name := "A", type := "DateTime", isRequired := true },
      { name := "B", type := "Int", isRequired := true },
      { name := "day", kind := .object, type := "Day", isRequired := true,
        relationName := some "Held", relationFromFields := ["A"], relationToFields := ["at"] },
      { name := "event", kind := .object, type := "Event", isRequired := true,
        relationName := some "Held", relationFromFields := ["B"], relationToFields := ["id"] }] }

def schema (documentation : Option String) : Schema where
  config := Config.ofDialect .sqlite
  models := [day documentation (lists "events" "_Held"), event (lists "days" "_Held")]
  joins := [held]
  enums := []

def link (documentation : Option String) : ManyToMany where
  model := day documentation (lists "events" "Event")
  field := lists "events" "Event"
  related := event (lists "days" "Day")
  opposite := lists "days" "Day"

def join : JoinTable where
  table := held
  endpoints := [⟨"Day", "events", "Held"⟩, ⟨"Event", "days", "Held"⟩]

theorem joinTable_eq (documentation : Option String) :
    (link documentation).joinTable = .ok join := by
  have hsides : (link documentation).sides =
      (day documentation (lists "events" "Event"), event (lists "days" "Day")) :=
    if_neg (by decide : ¬ "Event" < "Day")
  have hday : Naming.modelField "Day" = "day" := by decide
  have hevent : Naming.modelField "Event" = "event" := by decide
  have hfields : ManyToMany.sideFields (day documentation (lists "events" "Event"))
      (event (lists "days" "Day")) = ("day", "event") :=
    (if_neg (by decide : ¬ "Day" = "Event")).trans (congrArg₂ Prod.mk hday hevent)
  simp only [ManyToMany.joinTable, ManyToMany.table, hsides, hfields]
  rfl

theorem ofDatamodel_eq (documentation : Option String) :
    Schema.ofDatamodel (Config.ofDialect .sqlite) (datamodel documentation) =
      .ok (schema documentation) := by
  have hcollect : JoinTable.ofModels (datamodel documentation).models =
      (link documentation).joinTable.map ([·]) :=
    rfl
  rw [Schema.ofDatamodel, JoinTable.synthesize, hcollect, joinTable_eq]
  rfl

theorem eq_of_joinKey {documentation : Option String} {declared : List Fragment} {key id : Field}
    {target : Model} {keyColumn idColumn : Fragment}
    (h : (schema documentation).JoinKey declared held "A" key target id keyColumn idColumn) :
    target = day documentation (lists "events" "_Held") ∧ id = dayId documentation := by
  obtain ⟨-, ⟨holder, hholder, htarget, -⟩, hid, -, -⟩ := h
  obtain rfl := Option.some.inj hholder
  obtain rfl := Option.some.inj htarget
  obtain rfl := Option.some.inj hid
  exact ⟨rfl, rfl⟩

end DayEvents

open DayEvents in
theorem dayEvents_joinKeys : ∃ modules,
    ((datamodel (some "drizzle.dateMode date")).models.map Model.name).Nodup ∧
    (datamodel (some "drizzle.dateMode date")).modules (Config.ofDialect .sqlite) = .ok modules ∧
    ∃ key target id keyColumn idColumn,
      (schema (some "drizzle.dateMode date")).JoinKey (modules.flatMap Module.declarations) held
        "A" key target id keyColumn idColumn ∧
      keyColumn.SameCall "A" idColumn "day_at" ∧ id.type = key.type := by
  have hwritten : ((datamodel (some "drizzle.dateMode date")).modules
      (Config.ofDialect .sqlite)).isOk = true := by
    decide
  have hnames : ((datamodel (some "drizzle.dateMode date")).models.map Model.name).Nodup := by
    decide
  have hdistinct : (datamodel (some "drizzle.dateMode date")).Distinct := ⟨hnames, by decide⟩
  obtain ⟨modules, h⟩ := exists_of_isOk hwritten
  obtain ⟨schema, hschema, hkeys⟩ := modules_joinKeys_iff hnames h
  obtain rfl := Except.ok.inj ((ofDatamodel_eq _).symm.trans hschema)
  obtain ⟨⟨key, target, id, keyColumn, idColumn, hkey⟩, hsame⟩ :=
    hkeys held List.mem_cons_self "A" List.mem_cons_self
  obtain ⟨hcall, htype⟩ := hsame _ _ _ _ _ hkey
  refine ⟨modules, hnames, h, key, target, id, keyColumn, idColumn, hkey, ?_, htype hdistinct⟩
  obtain ⟨rfl, rfl⟩ := eq_of_joinKey hkey
  refine hcall.mpr ⟨fun _ directives hread => ?_, nofun⟩
  have hdirectives : (dayId (some "drizzle.dateMode date")).directives
      (day (some "drizzle.dateMode date") (lists "events" "_Held")) =
      .ok { dateMode := some .date } := by
    decide
  obtain rfl := Except.ok.inj (hdirectives.symm.trans hread)
  rfl

open DayEvents in
theorem dayEvents_not_joinKeys : ∃ modules,
    ((datamodel (some "drizzle.dateMode string")).models.map Model.name).Nodup ∧
    (datamodel (some "drizzle.dateMode string")).modules (Config.ofDialect .sqlite) = .ok modules ∧
    Schema.ofDatamodel (Config.ofDialect .sqlite) (datamodel (some "drizzle.dateMode string")) =
      .ok (schema (some "drizzle.dateMode string")) ∧
    ∃ key target id keyColumn idColumn,
      (schema (some "drizzle.dateMode string")).JoinKey (modules.flatMap Module.declarations) held
        "A" key target id keyColumn idColumn ∧
      ¬ keyColumn.SameCall "A" idColumn id.columnName := by
  have hwritten : ((datamodel (some "drizzle.dateMode string")).modules
      (Config.ofDialect .sqlite)).isOk = true := by
    decide
  have hnames : ((datamodel (some "drizzle.dateMode string")).models.map Model.name).Nodup := by
    decide
  obtain ⟨modules, h⟩ := exists_of_isOk hwritten
  obtain ⟨schema, d, hschema, hd, rfl⟩ := Datamodel.modules_eq_ok.mp h
  obtain rfl := Except.ok.inj ((ofDatamodel_eq _).symm.trans hschema)
  obtain ⟨key, target, id, keyColumn, idColumn, hkey⟩ := Schema.exists_joinKey hnames hschema
    List.mem_cons_self List.mem_cons_self hd fun _ => Declarations.declaration_mem
  refine ⟨_, hnames, h, hschema, key, target, id, keyColumn, idColumn, hkey, fun hcall => ?_⟩
  have hagree :=
    (hkey.sameCall_iff hnames hschema List.mem_cons_self List.mem_cons_self).1.mp hcall
  obtain ⟨rfl, rfl⟩ := eq_of_joinKey hkey
  have hmode := hagree.moment rfl { dateMode := some .string } (by decide)
  cases hmode

end SchemaWriter
