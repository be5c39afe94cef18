import SchemaWriter.Proofs.Column.Moments

namespace SchemaWriter

open Outcome

namespace Fragment

def baseCall? (column : Fragment) : Option (String × List Fragment) :=
  match column.bare with
  | .chain base _ => base.call?
  | _ => column.call?

def SameCall (column : Fragment) (name : String) (other : Fragment) (otherName : String) : Prop :=
  ∃ function options, column.baseCall? = some (function, .string name :: options) ∧
    other.baseCall? = some (function, .string otherName :: options)

theorem baseCall?_foldl_andThen {base : Fragment} (h : base.call?.isSome = true)
    (links : List Fragment) : (links.foldl andThen base).baseCall? = base.call? := by
  cases links with
  | nil =>
    rw [List.foldl_nil, baseCall?]
    split
    · exact absurd ‹_› (bare_ne_chain h _ _)
    · rfl
  | cons link links =>
    rw [foldl_andThen_cons h]
    rfl

end Fragment

def Constructor.arguments (constructor : Constructor) : List Fragment :=
  if constructor.options.isEmpty then []
  else [.record (constructor.options.map fun (key, value) => (key, value.fragment))]

theorem Dialect.call?_construct (dialect : Dialect) (constructor : Constructor) (column : String) :
    (dialect.construct constructor column).call? =
      some (constructor.function, .string column :: constructor.arguments) := by
  rw [construct, Fragment.call?_withImports]
  rfl

theorem Dialect.constructor_dateTime_inj {dialect : Dialect} {mode other : DateMode}
    (hfunction : (dialect.constructor mode .dateTime).function =
      (dialect.constructor other .dateTime).function)
    (harguments : (dialect.constructor mode .dateTime).arguments =
      (dialect.constructor other .dateTime).arguments) : mode = other := by
  cases dialect <;> cases mode <;> cases other <;>
    simp_all [constructor, postgresConstructor, mysqlConstructor, sqliteConstructor,
      Constructor.arguments, Dialect.mode, Fragment.record, OptionValue.fragment, DateMode.name]

namespace Field

def typeCall (dialect : Dialect) (mode : DateMode) (field : Field) : String × List Fragment :=
  match field.columnType? with
  | some (.scalar scalar) =>
    ((dialect.constructor mode scalar).function, (dialect.constructor mode scalar).arguments)
  | _ => (Naming.enumBinding field.type, [])

section

variable {dialect : Dialect} {mode : DateMode} {model : Model} {field : Field}

theorem typeCall_of_scalar {scalar : Scalar} (h : field.columnType? = some (.scalar scalar)) :
    field.typeCall dialect mode = ((dialect.constructor mode scalar).function,
      (dialect.constructor mode scalar).arguments) := by
  rw [typeCall, h]

theorem typeCall_of_enum (h : field.columnType? = some .enum) :
    field.typeCall dialect mode = (Naming.enumBinding field.type, []) := by
  rw [typeCall, h]

theorem constructorCall_typeCall {call : Fragment}
    (h : field.constructorCall dialect model mode = .ok call) :
    call.call? = some ((field.typeCall dialect mode).1,
      .string field.columnName :: (field.typeCall dialect mode).2) := by
  unfold constructorCall at h
  split at h
  · rename_i scalar hscalar
    obtain rfl := Except.ok.inj h
    rw [typeCall_of_scalar hscalar, dialect.call?_construct]
  · rename_i henum
    split at h
    · obtain rfl := Except.ok.inj h
      simp [typeCall_of_enum henum]
    · cases h
  · cases h
  · cases h

theorem baseCall?_column {column : Column} (h : field.column dialect mode model = .ok column) :
    ∃ directives, field.directives model = .ok directives ∧
      (column.fragment dialect).baseCall? =
        some ((field.typeCall dialect (dateMode directives mode)).1,
          .string field.columnName :: (field.typeCall dialect (dateMode directives mode)).2) := by
  obtain ⟨directives, call, list, default, hdirectives, hcall, -, -, rfl⟩ := column_eq_ok.mp h
  refine ⟨directives, hdirectives, ?_⟩
  rw [Column.fragment, Column.link, Fragment.baseCall?_foldl_andThen (call?_constructorCall hcall)]
  exact constructorCall_typeCall hcall

theorem kind_of_column {column : Column} (h : field.column dialect mode model = .ok column) :
    (∃ scalar, field.columnType? = some (.scalar scalar)) ∨ field.columnType? = some .enum := by
  obtain ⟨directives, call, list, default, -, hcall, -, -, -⟩ := column_eq_ok.mp h
  unfold constructorCall at hcall
  split at hcall
  · exact .inl ⟨_, ‹_›⟩
  · exact .inr ‹_›
  · cases hcall
  · cases hcall

end

theorem typeCall_eq_iff {dialect : Dialect} {mode other : DateMode} {key id : Field}
    (hkind : key.kind = id.kind) (htype : id.type = key.type ∨ Scalar.ofName? id.type = none)
    (hid : (∃ scalar, id.columnType? = some (.scalar scalar)) ∨ id.columnType? = some .enum) :
    key.typeCall dialect mode = id.typeCall dialect other ↔
      (id.columnType? = some (.scalar .dateTime) → other = mode) ∧
      (id.columnType? = some .enum → Naming.enumBinding id.type = Naming.enumBinding key.type) := by
  rcases hid with ⟨scalar, hscalar⟩ | henum
  · obtain ⟨hscalarKind, hname⟩ := columnType?_eq_scalar_iff.mp hscalar
    have hkey : key.columnType? = some (.scalar scalar) := by
      refine columnType?_eq_scalar_iff.mpr ⟨hkind.trans hscalarKind, ?_⟩
      rw [← htype.resolve_right (by simp [hname]), hname]
    have hnoEnum : id.columnType? ≠ some .enum := by simp [hscalar]
    rw [typeCall_of_scalar hkey, typeCall_of_scalar hscalar, Prod.mk.injEq]
    refine ⟨fun ⟨hfunction, harguments⟩ => ⟨fun hmoment => ?_, fun henum => absurd henum hnoEnum⟩,
      fun ⟨hmode, _⟩ => ?_⟩
    · obtain rfl : scalar = .dateTime := by simpa [hscalar] using hmoment
      exact (Dialect.constructor_dateTime_inj hfunction harguments).symm
    · by_cases hmoment : scalar = .dateTime
      · rw [hmode (by rw [hscalar, hmoment])]
        exact ⟨rfl, rfl⟩
      · rw [dialect.constructor_eq_of_ne hmoment mode other]
        exact ⟨rfl, rfl⟩
  · have hkey : key.columnType? = some .enum := by
      rw [columnType?_eq_enum_iff] at henum ⊢
      rw [hkind, henum]
    rw [typeCall_of_enum hkey, typeCall_of_enum henum]
    simp [henum, eq_comm]

structure TypesAgree (mode : DateMode) (key : Field) (model : Model) (id : Field) : Prop where
  moment : id.columnType? = some (.scalar .dateTime) → ∀ directives,
    id.directives model = .ok directives → dateMode directives mode = mode
  enum : id.columnType? = some .enum → Naming.enumBinding id.type = Naming.enumBinding key.type

theorem sameCall_iff {dialect : Dialect} {mode : DateMode} {table model : Model} {key id : Field}
    {keyColumn idColumn : Column} (hplain : key.documentation = none) (hkind : key.kind = id.kind)
    (htype : id.type = key.type ∨ Scalar.ofName? id.type = none)
    (hkey : key.column dialect mode table = .ok keyColumn)
    (hid : id.column dialect mode model = .ok idColumn) :
    (keyColumn.fragment dialect).SameCall key.columnName (idColumn.fragment dialect)
      id.columnName ↔ key.TypesAgree mode model id := by
  obtain ⟨plain, hplainRead, hkeyCall⟩ := baseCall?_column hkey
  obtain ⟨directives, hread, hidCall⟩ := baseCall?_column hid
  have hmode : dateMode plain mode = mode := by
    rw [Field.directives, hplain] at hplainRead
    rw [← Except.ok.inj hplainRead]
    rfl
  rw [hmode] at hkeyCall
  have hagree : key.TypesAgree mode model id ↔
      key.typeCall dialect mode = id.typeCall dialect (dateMode directives mode) := by
    rw [typeCall_eq_iff hkind htype (kind_of_column hid)]
    constructor
    · exact fun h => ⟨fun hmoment => h.moment hmoment directives hread, h.enum⟩
    · rintro ⟨hmoment, henum⟩
      refine ⟨fun htime other hother => ?_, henum⟩
      obtain rfl := Except.ok.inj (hread.symm.trans hother)
      exact hmoment htime
  rw [hagree]
  constructor
  · rintro ⟨function, options, hkeySame, hidSame⟩
    obtain ⟨hfunction, hoptions⟩ := Prod.mk.inj (Option.some.inj (hkeyCall.symm.trans hkeySame))
    obtain ⟨hfunction', hoptions'⟩ := Prod.mk.inj (Option.some.inj (hidCall.symm.trans hidSame))
    exact Prod.ext (hfunction.trans hfunction'.symm)
      ((List.cons.inj hoptions).2.trans (List.cons.inj hoptions').2.symm)
  · exact fun hsame => ⟨_, _, hkeyCall, hsame ▸ hidCall⟩

end Field

end SchemaWriter
