import SchemaWriter.Datamodel.Printer
import SchemaWriter.Datamodel.Reader
import SchemaWriter.Proofs.Datamodel.Distinct
import SchemaWriter.Proofs.Json.Reread

namespace SchemaWriter

open Json

namespace DefaultValue

def values : DefaultValue → List Ordered
  | .function _ arguments => arguments
  | .literal value => [value]

def Drifts : DefaultValue → Prop
  | .function _ _ => False
  | .literal value => value.json = .null ∨ ∃ members, value.json = .object members ∧
    (∃ name, members.lookup "name" = some (.string name)) ∧
      ∀ value, members.lookup "args" = some value → ∃ arguments, value = .array arguments

def reread : DefaultValue → Option DefaultValue
  | .literal ⟨.null, _⟩ => none
  | .literal ⟨.object members, sorted⟩ =>
    match sorted.members.lookup "name", sorted.members.lookup "args" with
    | some ⟨.string name, _⟩, none => some (.function name [])
    | some ⟨.string name, _⟩, some ⟨.array _, sorted⟩ => some (.function name sorted.items)
    | _, _ => some (.literal ⟨.object members, sorted⟩)
  | value => some value

theorem reread_eq_some_iff (value : DefaultValue) : value.reread = some value ↔ ¬ value.Drifts := by
  cases value with
  | function name arguments => simp [reread, Drifts]
  | literal value =>
    obtain ⟨value, hsorted⟩ := value
    cases value with
    | object members =>
      have hlookup := Ordered.lookup_plainMembers hsorted.members
      rw [hsorted.plainMembers_members] at hlookup
      simp only [reread, Drifts, Json.object.injEq, exists_eq_left', hlookup]
      cases hsorted.members.lookup "name" with
      | none => simp
      | some name =>
        obtain ⟨name, _⟩ := name
        cases hsorted.members.lookup "args" with
        | none => cases name <;> simp
        | some arguments =>
          obtain ⟨arguments, _⟩ := arguments
          cases name <;> cases arguments <;> simp
    | _ => simp [reread, Drifts]

theorem ofMembers_members {members : List (String × Json)} (h : Sorted (.object members)) :
    some (ofMembers h.members) = (literal ⟨.object members, h⟩).reread := by
  have hkeys : (h.members.map (·.1)).Nodup := by
    rw [← Ordered.map_plainMembers, h.plainMembers_members]
    exact nodup_keys h.keys
  rw [ofMembers, filter_eq_lookup hkeys, filter_eq_lookup hkeys, h.object_members, reread]
  cases h.members.lookup "name" with
  | none => rfl
  | some name =>
    obtain ⟨name, _⟩ := name
    cases h.members.lookup "args" with
    | none => cases name <;> rfl
    | some arguments =>
      obtain ⟨arguments, _⟩ := arguments
      cases name <;> cases arguments <;> rfl

theorem ofMembers_call (name : String) (arguments : List Ordered) :
    ofMembers [("name", .string name), ("args", .array arguments)] = .function name arguments := by
  have hitems : ofMembers [("name", .string name), ("args", .array arguments)] =
      .function name (Sorted.items (Ordered.array arguments).sorted) :=
    rfl
  rw [hitems, Ordered.items_array]

theorem decoder_reads_object {members : List (String × Ordered)}
    (h : ∀ member ∈ members, member.2.json.Exact) :
    decoder.Reads (.object (Ordered.plainMembers members)) (ofMembers members) := by
  intro depth hdepth
  obtain ⟨left, rfl, -⟩ := Draft.exists_of_succ_le hdepth
  have hread : Draft.jsonMembers? left (memberDrafts (Ordered.plainMembers members)) =
      some members :=
    Draft.jsonMembers?_memberDrafts fun member hmem => Draft.json?_toDraft (h member hmem)
      (Nat.le_of_lt_succ
        ((nesting_lt_of_member (List.mem_map_of_mem hmem)).trans_le hdepth))
  rw [toDraft, decoder, hread]

section

variable {default : DefaultValue} (h : ∀ value ∈ default.values, value.json.Exact)
include h

theorem exact_toJson : default.toJson.Exact := by
  cases default with
  | function name arguments =>
    refine .object ?_
    rw [List.forall_mem_cons, List.forall_mem_singleton]
    exact ⟨.string name, .array (List.forall_mem_map.mpr h)⟩
  | literal value => exact h value List.mem_cons_self

theorem decoder_reads : (Decoder.option decoder).Reads default.toJson default.reread := by
  cases default with
  | function name arguments =>
    have hmembers : ∀ member ∈ [("name", Ordered.string name), ("args", .array arguments)],
        member.2.json.Exact := by
      rw [List.forall_mem_cons, List.forall_mem_singleton]
      exact ⟨.string name, .array (List.forall_mem_map.mpr h)⟩
    have hread := decoder_reads_object hmembers
    rw [ofMembers_call] at hread
    exact Decoder.option_reads (by nofun) hread
  | literal value =>
    have hexact := h value List.mem_cons_self
    obtain ⟨value, hsorted⟩ := value
    cases hexact with
    | null => exact Decoder.option_reads_null decoder
    | object hmembers =>
      rw [← ofMembers_members hsorted]
      refine Decoder.option_reads (by nofun) ?_
      have hread := decoder_reads_object fun member hmem =>
        hmembers _ (hsorted.mem_of_mem_members hmem)
      rwa [hsorted.plainMembers_members] at hread
    | _ =>
      intro depth hdepth
      have hread := Draft.json?_toDraft (h _ List.mem_cons_self) hdepth
      rw [toDraft] at hread
      simp only [toJson, toDraft, Decoder.option, decoder, Decoder.json, hread]
      rfl

end

end DefaultValue

def Field.HasExactDefault (field : Field) : Prop :=
  ∀ default ∈ field.defaultValue, ∀ value ∈ default.values, value.json.Exact

def Datamodel.HasExactDefaults (datamodel : Datamodel) : Prop :=
  ∀ model ∈ datamodel.models, ∀ field ∈ model.fields, field.HasExactDefault

def Field.reread (field : Field) : Field :=
  { field with defaultValue := field.defaultValue.bind DefaultValue.reread }

def Model.reread (model : Model) : Model :=
  { model with fields := model.fields.map Field.reread }

def Datamodel.reread (datamodel : Datamodel) : Datamodel :=
  { datamodel with models := datamodel.models.map Model.reread }

theorem Field.reread_eq_self_iff (field : Field) :
    field.reread = field ↔ ∀ default ∈ field.defaultValue, ¬ default.Drifts := by
  have hdefault : field.reread = field ↔
      field.defaultValue.bind DefaultValue.reread = field.defaultValue :=
    ⟨congrArg Field.defaultValue, fun h => by rw [reread, h]⟩
  rw [hdefault]
  cases field.defaultValue with
  | none => simp
  | some default => simp [DefaultValue.reread_eq_some_iff]

theorem Model.reread_eq_self_iff (model : Model) :
    model.reread = model ↔ ∀ field ∈ model.fields, field.reread = field := by
  rw [← map_eq_self_iff]
  exact ⟨congrArg Model.fields, fun h => by rw [reread, h]⟩

theorem Datamodel.reread_eq_self_iff (datamodel : Datamodel) :
    datamodel.reread = datamodel ↔ ∀ model ∈ datamodel.models, model.reread = model := by
  rw [← map_eq_self_iff]
  exact ⟨congrArg Datamodel.models, fun h => by rw [reread, h]⟩

namespace Json.Decoder

theorem strings_reads (strings : List String) :
    (list string).Reads (.ofStrings strings) strings := by
  have hread : (list string).Reads (.ofStrings strings) (strings.map id) :=
    list_reads fun s _ => string_reads s
  rwa [List.map_id] at hread

theorem optional_string_reads (s : Option String) :
    (option string).Reads (.ofOption .string s) s := by
  cases s with
  | none => exact option_reads_null string
  | some s => exact option_reads (by nofun) (string_reads s)

end Json.Decoder

theorem FieldKind.lookup_name (kind : FieldKind) : known.lookup kind.name = some kind := by
  cases kind <;> decide

theorem Field.decoder_reads {field : Field} (h : field.HasExactDefault) :
    record.decoder.Reads field.toJson field.reread := by
  have hdefault : (Decoder.option DefaultValue.decoder).Reads
      (.ofOption DefaultValue.toJson field.defaultValue)
      (field.defaultValue.bind DefaultValue.reread) := by
    cases hvalue : field.defaultValue with
    | none => exact Decoder.option_reads_null _
    | some default => exact DefaultValue.decoder_reads (h default hvalue)
  have hkeys : record.keys.Nodup := by decide
  exact Record.decoder_reads hkeys <|
    .cons (Slot.of_reads (Decoder.string_reads _)) <|
    .cons (Slot.of_reads (Decoder.optional_string_reads _)) <|
    .cons (Slot.of_reads (Decoder.variant_reads (FieldKind.lookup_name _))) <|
    .cons (Slot.of_reads (Decoder.string_reads _)) <|
    .cons (Slot.of_reads (Decoder.bool_reads _)) <|
    .cons (Slot.of_reads (Decoder.bool_reads _)) <|
    .cons (Slot.of_reads (Decoder.bool_reads _)) <|
    .cons (Slot.of_reads (Decoder.bool_reads _)) <|
    .cons (Slot.of_reads (Decoder.bool_reads _)) <|
    .cons (Slot.of_reads hdefault) <|
    .cons (Slot.of_reads (Decoder.optional_string_reads _)) <|
    .cons (Slot.of_reads (Decoder.optional_string_reads _)) <|
    .cons (Slot.of_reads (Decoder.strings_reads _)) <|
    .cons (Slot.of_reads (Decoder.strings_reads _)) <|
    .nil _

theorem CompoundKey.decoder_reads (key : CompoundKey) : record.decoder.Reads key.toJson key := by
  have hkeys : record.keys.Nodup := by decide
  exact Record.decoder_reads hkeys <|
    .cons (Slot.of_reads (Decoder.optional_string_reads _)) <|
    .cons (Slot.of_reads (Decoder.strings_reads _)) <|
    .nil _

theorem Model.decoder_reads {model : Model} (h : ∀ field ∈ model.fields, field.HasExactDefault) :
    record.decoder.Reads model.toJson model.reread := by
  have hkeys : record.keys.Nodup := by decide
  have hfields : (Decoder.list Field.record.decoder).Reads
      (.array (model.fields.map Field.toJson)) (model.fields.map Field.reread) :=
    Decoder.list_reads fun field hmem => Field.decoder_reads (h field hmem)
  have hprimary : (Decoder.option CompoundKey.record.decoder).Reads
      (.ofOption CompoundKey.toJson model.primaryKey) model.primaryKey := by
    cases model.primaryKey with
    | none => exact Decoder.option_reads_null _
    | some key => exact Decoder.option_reads (by nofun) key.decoder_reads
  exact Record.decoder_reads hkeys <|
    .cons (Slot.of_reads (Decoder.string_reads _)) <|
    .cons (Slot.of_reads (Decoder.optional_string_reads _)) <|
    .cons (Slot.of_reads hfields) <|
    .cons (Slot.of_reads hprimary) <|
    .cons (Slot.of_reads (Decoder.optional_string_reads _)) <|
    .nil _

theorem EnumValue.decoder_reads (value : EnumValue) : record.decoder.Reads value.toJson value := by
  have hkeys : record.keys.Nodup := by decide
  exact Record.decoder_reads hkeys <|
    .cons (Slot.of_reads (Decoder.string_reads _)) <|
    .cons (Slot.of_reads (Decoder.optional_string_reads _)) <|
    .nil _

theorem EnumType.decoder_reads (enum : EnumType) : record.decoder.Reads enum.toJson enum := by
  have hkeys : record.keys.Nodup := by decide
  have hvalues : (Decoder.list EnumValue.record.decoder).Reads
      (.array (enum.values.map EnumValue.toJson)) (enum.values.map id) :=
    Decoder.list_reads fun value _ => value.decoder_reads
  rw [List.map_id] at hvalues
  exact Record.decoder_reads hkeys <|
    .cons (Slot.of_reads (Decoder.string_reads _)) <|
    .cons (Slot.of_reads (Decoder.optional_string_reads _)) <|
    .cons (Slot.of_reads hvalues) <|
    .cons (Slot.of_reads (Decoder.optional_string_reads _)) <|
    .nil _

theorem Datamodel.decoder_reads {datamodel : Datamodel} (h : datamodel.HasExactDefaults) :
    record.decoder.Reads datamodel.toJson datamodel.reread := by
  have hkeys : record.keys.Nodup := by decide
  have hmodels : (Decoder.list Model.record.decoder).Reads
      (.array (datamodel.models.map Model.toJson)) (datamodel.models.map Model.reread) :=
    Decoder.list_reads fun model hmem => Model.decoder_reads (h model hmem)
  have henums : (Decoder.list EnumType.record.decoder).Reads
      (.array (datamodel.enums.map EnumType.toJson)) (datamodel.enums.map id) :=
    Decoder.list_reads fun enum _ => enum.decoder_reads
  rw [List.map_id] at henums
  exact Record.decoder_reads hkeys <|
    .cons (Slot.of_reads hmodels) <|
    .cons (Slot.of_reads henums) <|
    .nil _

namespace Json

theorem exact_ofOption {α : Type} {write : α → Json} {o : Option α} (h : ∀ x ∈ o, (write x).Exact) :
    (ofOption write o).Exact := by
  cases o with
  | none => exact .null
  | some x => exact h x rfl

theorem exact_array_map {α : Type} {write : α → Json} {xs : List α}
    (h : ∀ x ∈ xs, (write x).Exact) : (array (xs.map write)).Exact :=
  .array (List.forall_mem_map.mpr h)

theorem exact_optional_string (s : Option String) : (ofOption string s).Exact :=
  exact_ofOption fun s _ => .string s

theorem exact_ofStrings (strings : List String) : (ofStrings strings).Exact :=
  exact_array_map fun s _ => .string s

end Json

theorem Field.exact_toJson {field : Field} (h : field.HasExactDefault) : field.toJson.Exact := by
  have hdefault : (Json.ofOption DefaultValue.toJson field.defaultValue).Exact :=
    exact_ofOption fun default hmem => DefaultValue.exact_toJson (h default hmem)
  refine .object ?_
  simp [Exact.string, Exact.bool, exact_optional_string, exact_ofStrings, hdefault]

theorem CompoundKey.exact_toJson (key : CompoundKey) : key.toJson.Exact := by
  refine .object ?_
  simp [exact_optional_string, exact_ofStrings]

theorem Model.exact_toJson {model : Model} (h : ∀ field ∈ model.fields, field.HasExactDefault) :
    model.toJson.Exact := by
  have hfields : (Json.array (model.fields.map Field.toJson)).Exact :=
    exact_array_map fun field hmem => Field.exact_toJson (h field hmem)
  have hprimary : (Json.ofOption CompoundKey.toJson model.primaryKey).Exact :=
    exact_ofOption fun key _ => key.exact_toJson
  refine .object ?_
  simp only [List.forall_mem_cons]
  simp [Exact.string, exact_optional_string, hfields, hprimary]

theorem EnumValue.exact_toJson (value : EnumValue) : value.toJson.Exact := by
  refine .object ?_
  simp [Exact.string, exact_optional_string]

theorem EnumType.exact_toJson (enum : EnumType) : enum.toJson.Exact := by
  have hvalues : (Json.array (enum.values.map EnumValue.toJson)).Exact :=
    exact_array_map fun value _ => value.exact_toJson
  refine .object ?_
  simp [Exact.string, exact_optional_string, hvalues]

theorem Datamodel.exact_toJson {datamodel : Datamodel} (h : datamodel.HasExactDefaults) :
    datamodel.toJson.Exact := by
  have hmodels : (Json.array (datamodel.models.map Model.toJson)).Exact :=
    exact_array_map fun model hmem => Model.exact_toJson (h model hmem)
  have henums : (Json.array (datamodel.enums.map EnumType.toJson)).Exact :=
    exact_array_map fun enum _ => enum.exact_toJson
  refine .object ?_
  simp [hmodels, henums]

theorem Datamodel.parse_print {datamodel : Datamodel} (hdefaults : datamodel.HasExactDefaults)
    (hnests : NestsWithin datamodel.print 127) :
    parse datamodel.print = .ok datamodel.reread ∧
      (parse datamodel.print = .ok datamodel ↔ ∀ model ∈ datamodel.models,
        ∀ field ∈ model.fields, ∀ default ∈ field.defaultValue, ¬ default.Drifts) := by
  have hspells : Spells datamodel.print datamodel.toJson.toDraft :=
    (exact_toJson hdefaults).spells
  obtain ⟨draft, hdraft, hnesting⟩ := hnests
  obtain rfl := hdraft.unique hspells
  have hparse : parse datamodel.print = .ok datamodel.reread :=
    (hspells.decode record.decoder).trans (decoder_reads hdefaults maxDepth hnesting)
  refine ⟨hparse, ?_⟩
  rw [hparse, Except.ok.injEq, reread_eq_self_iff]
  simp only [Model.reread_eq_self_iff, Field.reread_eq_self_iff]

def themes : Datamodel where
  models := [{ name := "Theme", fields := [
    { name := "id", type := "Int", defaultValue := some (.function "autoincrement" []) },
    { name := "size", type := "Int", defaultValue := some (.literal (.number (.integer (-12)))) },
    { name := "style", type := "Json",
      defaultValue := some (.literal (.object [("name", .string "dark")])) }] }]

theorem themes_parse_print : Datamodel.parse themes.print = .ok themes.reread ∧
    Datamodel.parse themes.print ≠ .ok themes := by
  have hstyle : (Ordered.object [("name", .string "dark")]).json =
      .object [("name", .string "dark")] :=
    rfl
  have hdefaults : themes.HasExactDefaults := by
    have hsize : (Json.number (.integer (-12))).Exact := .integer (by decide) (by decide)
    have hexact : (Json.object [("name", .string "dark")]).Exact := .object (by simp [Exact.string])
    simp [Datamodel.HasExactDefaults, Field.HasExactDefault, themes, DefaultValue.values, hsize,
      -Ordered.json_object, hstyle, hexact]
  have hnests : NestsWithin themes.print 127 :=
    ⟨_, (Datamodel.exact_toJson hdefaults).spells, by decide⟩
  obtain ⟨hread, hsame⟩ := Datamodel.parse_print hdefaults hnests
  refine ⟨hread, fun h => ?_⟩
  have hdrifts := hsame.mp h
  simp [themes, DefaultValue.Drifts, -Ordered.json_object, hstyle, List.lookup_cons] at hdrifts

end SchemaWriter
