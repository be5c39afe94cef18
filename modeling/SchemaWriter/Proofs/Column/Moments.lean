import SchemaWriter.Proofs.Column.Links
import SchemaWriter.Proofs.Directive.LineLocal

namespace SchemaWriter

open Outcome

inductive Moment where
  | now
  | at (source : String)

namespace Moment

def spelling : Moment → DateMode → String
  | .now, .date => "new Date()"
  | .now, .string => "new Date().toISOString()"
  | .at source, .date => "new Date(" ++ Literal.quote source ++ ")"
  | .at source, .string => Literal.quote source

theorem date_ne_string (moment other : Moment) :
    moment.spelling .date ≠ other.spelling .string := by
  intro h
  have h := congrArg String.toList h
  cases moment <;> cases other <;> simp [spelling, Literal.quote, Literal.quoteChars] at h

structure Written (mode : DateMode) (moment : Moment) (text : String) : Prop where
  spelled : text = moment.spelling mode
  date_iff : (∃ other : Moment, text = other.spelling .date) ↔ mode = .date
  string_iff : (∃ other : Moment, text = other.spelling .string) ↔ mode = .string

theorem written (mode : DateMode) (moment : Moment) :
    Written mode moment (moment.spelling mode) where
  spelled := rfl
  date_iff := by
    cases mode with
    | date => exact iff_of_true ⟨moment, rfl⟩ rfl
    | string => exact iff_of_false (fun ⟨other, h⟩ => date_ne_string other moment h.symm) (by simp)
  string_iff := by
    cases mode with
    | date => exact iff_of_false (fun ⟨other, h⟩ => date_ne_string moment other h) (by simp)
    | string => exact iff_of_true ⟨moment, rfl⟩ rfl

end Moment

theorem DateMode.render_now (mode : DateMode) : mode.now.render = Moment.now.spelling mode := by
  cases mode <;> exact Fragment.render_verbatim _

namespace Dialect

def momentColumn (column : String) : Dialect → DateMode → String
  | .postgres, .date =>
    "timestamp(" ++ Literal.quote column ++ ", \x7b mode: 'date', precision: 3 \x7d)"
  | .postgres, .string =>
    "timestamp(" ++ Literal.quote column ++ ", \x7b mode: 'string', precision: 3 \x7d)"
  | .mysql, .date => "datetime(" ++ Literal.quote column ++ ", \x7b mode: 'date', fsp: 3 \x7d)"
  | .mysql, .string => "datetime(" ++ Literal.quote column ++ ", \x7b mode: 'string', fsp: 3 \x7d)"
  | .sqlite, .date => "integer(" ++ Literal.quote column ++ ", \x7b mode: 'timestamp_ms' \x7d)"
  | .sqlite, .string => "text(" ++ Literal.quote column ++ ")"

theorem momentColumn_inj {column : String} {dialect : Dialect} {mode other : DateMode} :
    dialect.momentColumn column mode = dialect.momentColumn column other ↔ mode = other := by
  constructor
  · intro h
    have h := congrArg String.toList h
    cases dialect <;> cases mode <;> cases other <;> simp [momentColumn] at h ⊢
  · rintro rfl
    rfl

theorem render_construct (dialect : Dialect) (constructor : Constructor) (column : String) :
    (dialect.construct constructor column).render = constructor.function ++ "(" ++
      Literal.quote column ++ (if constructor.options.isEmpty then "" else
        ", " ++ (Fragment.record
          (constructor.options.map fun (key, value) => (key, value.fragment))).render) ++ ")" := by
  rw [construct, Fragment.render_withImports, Constructor.call, Fragment.render_invoke,
    ← String.toList_inj]
  split <;> simp [String.intercalate_cons_cons]

theorem render_constructor_dateTime (dialect : Dialect) (mode : DateMode) (column : String) :
    (dialect.construct (dialect.constructor mode .dateTime) column).render =
      dialect.momentColumn column mode := by
  rw [render_construct, ← String.toList_inj]
  cases dialect <;> cases mode <;>
    simp [momentColumn, constructor, postgresConstructor, mysqlConstructor, sqliteConstructor,
      Dialect.mode, Fragment.record, OptionValue.fragment, DateMode.name, Fragment.render,
      Fragment.renderEntry, Fragment.renderEntries, Literal.quote, Literal.quoteChars,
      Literal.escapeChar]
  all_goals decide

theorem constructor_eq_of_ne {scalar : Scalar} (h : scalar ≠ .dateTime) (dialect : Dialect)
    (mode other : DateMode) :
    dialect.constructor mode scalar = dialect.constructor other scalar := by
  cases scalar with
  | dateTime => exact absurd rfl h
  | int | float | string | boolean | decimal | bigInt | json | bytes => cases dialect <;> rfl

end Dialect

theorem Column.render_links (dialect : Dialect) {column : Column}
    (hbase : column.base.call?.isSome = true) :
    (column.fragment dialect).links.map Fragment.render =
      column.modifiers.filterMap (Modifier.text? dialect) := by
  rw [Column.fragment, Column.link, Fragment.links_foldl_andThen hbase, List.map_filterMap]
  rfl

namespace Field

inductive Dated (mode : DateMode) : Json → Fragment → Prop where
  | list {items : List Json} {fragments : List Fragment}
    (h : List.Forall₂ (Dated mode) items fragments) : Dated mode (.array items) (.array fragments)
  | moment {source : String} {fragment : Fragment}
    (h : (Moment.at source).Written mode fragment.render) : Dated mode (.string source) fragment
  | other {value : Json} (hlist : ∀ items, value ≠ .array items)
    (hstring : ∀ source, value ≠ .string source) : Dated mode value value.fragment

section

variable {dialect : Dialect} {mode : DateMode} {model : Model} {field : Field}

theorem dated_single (htype : field.columnType? = some (.scalar .dateTime)) {value : Json}
    (hlist : ∀ items, value ≠ .array items) {fragment : Fragment}
    (h : literal model field mode value = .ok fragment) : Dated mode value fragment := by
  cases value with
  | array items => exact absurd rfl (hlist items)
  | string source =>
    rw [literal, htype] at h
    · refine .moment ?_
      have hspelled : fragment.render = (Moment.at source).spelling mode := by
        cases mode <;> obtain rfl := Except.ok.inj h
        · exact Fragment.render_verbatim _
        · exact Fragment.render_string _
      exact hspelled ▸ Moment.written mode (.at source)
    · exact hlist
  | null | bool | number | object =>
    rw [literal, htype] at h
    · obtain rfl := Except.ok.inj h
      exact .other (by simp) (by simp)
    · exact hlist

mutual

theorem dated_literal (htype : field.columnType? = some (.scalar .dateTime)) :
    ∀ (value : Json) {fragment : Fragment}, literal model field mode value = .ok fragment →
      Dated mode value fragment
  | .array items, _, h => by
    rw [literal] at h
    obtain ⟨fragments, hfragments, rfl⟩ := map_eq_ok.mp h
    exact .list (dated_literals htype items hfragments)
  | .null, _, h | .bool _, _, h | .number _, _, h | .string _, _, h | .object _, _, h =>
    dated_single htype (by simp) h

theorem dated_literals (htype : field.columnType? = some (.scalar .dateTime)) :
    ∀ (items : List Json) {fragments : List Fragment},
      literals model field mode items = .ok fragments → List.Forall₂ (Dated mode) items fragments
  | [], _, h => by
    obtain rfl := Except.ok.inj h
    exact .nil
  | item :: items, _, h => by
    obtain ⟨first, hfirst, h⟩ := bind_eq_ok.mp h
    obtain ⟨rest, hrest, h⟩ := bind_eq_ok.mp h
    obtain rfl := pure_eq_ok.mp h
    exact .cons (dated_literal htype item hfirst) (dated_literals htype items hrest)

end

end

structure WritesMoments (dialect : Dialect) (field : Field) (directives : Directives)
    (mode : DateMode) (column : Column) : Prop where
  constructor_iff : ∀ variant,
    column.base.render = dialect.momentColumn field.columnName variant ↔ mode = variant
  now : dialect = .sqlite → directives.defaultExpression? = none →
    ∀ arguments, field.defaultValue = some (.function "now" arguments) →
      ∃ text, Moment.now.Written mode text ∧
        (column.fragment dialect).insertDefaults.map Fragment.render =
          ["$defaultFn(() => \x7b return " ++ text ++ "; \x7d)"]
  literal : directives.defaultExpression? = none →
    ∀ value, field.defaultValue = some (.literal value) →
      ∃ fragment, Dated mode value.json fragment ∧
        (column.fragment dialect).insertDefaults = [.invoke "default" [fragment]]
  update : field.isUpdatedAt = true → ∃ text links, Moment.now.Written mode text ∧
    (column.fragment dialect).links.map Fragment.render =
      links ++ ["$onUpdate(() => \x7b return " ++ text ++ "; \x7d)"]

section

variable {dialect : Dialect} {mode : DateMode} {model : Model} {field : Field} {column : Column}

theorem constructorCall_dateTime (htype : field.columnType? = some (.scalar .dateTime))
    {call : Fragment} (h : field.constructorCall dialect model mode = .ok call) :
    call.render = dialect.momentColumn field.columnName mode := by
  rw [constructorCall, htype] at h
  obtain rfl := Except.ok.inj h
  exact dialect.render_constructor_dateTime mode field.columnName

theorem column_writesMoments (htype : field.columnType? = some (.scalar .dateTime))
    (h : field.column dialect mode model = .ok column) :
    ∃ directives, field.directives model = .ok directives ∧
      field.WritesMoments dialect directives (dateMode directives mode) column := by
  obtain ⟨directives, call, list, default, hdirectives, hcall, -, -, hcolumn⟩ := column_eq_ok.mp h
  refine ⟨directives, hdirectives, fun variant => ?_, ?_, ?_, fun hupdated => ?_⟩
  · rw [hcolumn, constructorCall_dateTime htype hcall, Dialect.momentColumn_inj]
  · rintro rfl hnone arguments hvalue
    obtain ⟨modifiers, hmodifiers, hlinks⟩ :=
      insertDefaults_of_not_autoincrement (by simp [isAutoincrement, hvalue]) hdirectives h
    simp only [defaultModifiers, hnone, hvalue] at hmodifiers
    obtain rfl := Except.ok.inj hmodifiers
    refine ⟨_, Moment.written _ .now, ?_⟩
    rw [hlinks, ← DateMode.render_now]
    simp [Modifier.fragment?, Dialect.defaultNow, Fragment.render_defaultFunction]
  · intro hnone value hvalue
    obtain ⟨modifiers, hmodifiers, hlinks⟩ :=
      insertDefaults_of_not_autoincrement (by simp [isAutoincrement, hvalue]) hdirectives h
    simp only [defaultModifiers, hnone, hvalue] at hmodifiers
    obtain ⟨fragment, hfragment, rfl⟩ := map_eq_ok.mp hmodifiers
    exact ⟨fragment, dated_literal htype value.json hfragment, hlinks⟩
  · refine ⟨_, (list ++ typeModifiers directives ++ field.keyModifiers ++ field.uniqueModifiers ++
      default).filterMap (Modifier.text? dialect), Moment.written _ .now, ?_⟩
    rw [Column.render_links dialect (hcolumn ▸ call?_constructorCall hcall), hcolumn,
      ← DateMode.render_now, List.filterMap_append, updateModifiers, if_pos hupdated]
    simp

end

section

variable (mode other : DateMode)

theorem constructorCall_eq_of_ne {field : Field}
    (htype : field.columnType? ≠ some (.scalar .dateTime)) (dialect : Dialect) (model : Model) :
    field.constructorCall dialect model mode = field.constructorCall dialect model other := by
  unfold constructorCall
  split
  · rename_i scalar hscalar
    have hne : scalar ≠ .dateTime := fun h => htype (h ▸ hscalar)
    rw [dialect.constructor_eq_of_ne hne mode other]
  · rfl
  · rfl
  · rfl

theorem scalarLiteral_eq_of_ne {scalar : Scalar} (h : scalar ≠ .dateTime) (model : Model)
    (field : Field) (value : Json) :
    scalarLiteral model field mode value scalar = scalarLiteral model field other value scalar := by
  cases scalar with
  | dateTime => exact absurd rfl h
  | int | float | string | boolean | decimal | bigInt | json | bytes => rfl

theorem single_eq_of_ne {field : Field} (htype : field.columnType? ≠ some (.scalar .dateTime))
    (model : Model) {value : Json} (hlist : ∀ items, value ≠ .array items) :
    literal model field mode value = literal model field other value := by
  rw [literal, literal]
  · split
    · rename_i scalar hscalar
      exact scalarLiteral_eq_of_ne mode other (fun h => htype (h ▸ hscalar)) model field value
    · rfl
  · exact hlist
  · exact hlist

mutual

theorem literal_eq_of_ne {field : Field} (htype : field.columnType? ≠ some (.scalar .dateTime))
    (model : Model) : ∀ value : Json,
      literal model field mode value = literal model field other value
  | .array items => by rw [literal, literal, literals_eq_of_ne htype model items]
  | .null | .bool _ | .number _ | .string _ | .object _ =>
    single_eq_of_ne mode other htype model (by simp)

theorem literals_eq_of_ne {field : Field} (htype : field.columnType? ≠ some (.scalar .dateTime))
    (model : Model) : ∀ items : List Json,
      literals model field mode items = literals model field other items
  | [] => rfl
  | item :: items => by
    rw [literals, literals, literal_eq_of_ne htype model item, literals_eq_of_ne htype model items]

end

structure Undated (field : Field) : Prop where
  type : field.columnType? ≠ some (.scalar .dateTime)
  update : field.isUpdatedAt = false
  default : ∀ arguments, field.defaultValue ≠ some (.function "now" arguments)

theorem Undated.defaultModifiers_eq {field : Field} (h : field.Undated) (model : Model)
    (directives : Directives) : field.defaultModifiers model directives mode =
      field.defaultModifiers model directives other := by
  unfold defaultModifiers
  cases directives.defaultExpression? with
  | some given => rfl
  | none =>
    dsimp only
    split
    · rfl
    · exact absurd ‹_› (h.default _)
    · rfl
    · rfl
    · rename_i value _
      rw [literal_eq_of_ne mode other h.type model value.json]

theorem Undated.column_eq {field : Field} (h : field.Undated) (dialect : Dialect) (model : Model) :
    field.column dialect mode model = field.column dialect other model := by
  unfold Field.column base
  cases field.directives model with
  | error failure => rfl
  | ok directives =>
    simp only [bind, Except.bind,
      h.defaultModifiers_eq (dateMode directives mode) (dateMode directives other),
      constructorCall_eq_of_ne (dateMode directives mode) (dateMode directives other) h.type,
      updateModifiers, h.update, Bool.false_eq_true, if_false]

def SetsDateMode (field : Field) : Prop :=
  ∃ documentation, field.documentation = some documentation ∧
    ∃ line ∈ Directives.lines documentation, Directives.Bears line .dateMode

theorem SetsDateMode.dateMode_eq {field : Field} (h : field.SetsDateMode) {model : Model}
    {directives : Directives} (hdirectives : field.directives model = .ok directives) :
    dateMode directives mode = dateMode directives other := by
  obtain ⟨documentation, hdocumentation, hline⟩ := h
  rw [Field.directives, hdocumentation] at hdirectives
  have hread := mapError_eq_ok.mp hdirectives
  rw [Directives.parse_eq_addAll] at hread
  have hset := (Directives.has_addAll_iff hread).mpr (Directives.mem_tags.mpr hline)
  obtain ⟨own, hown⟩ := Option.isSome_iff_exists.mp hset
  rw [dateMode, dateMode, hown, Option.getD_some, Option.getD_some]

theorem SetsDateMode.column_eq {field : Field} (h : field.SetsDateMode) (dialect : Dialect)
    (model : Model) : field.column dialect mode model = field.column dialect other model := by
  unfold Field.column
  cases hdirectives : field.directives model with
  | error failure => rfl
  | ok directives => simp only [bind, Except.bind, h.dateMode_eq mode other hdirectives]

end

end Field

theorem column_followsDateMode (dialect : Dialect) (mode : DateMode) (model : Model)
    (field : Field) :
    (field.columnType? = some (.scalar .dateTime) →
      ∀ column, field.column dialect mode model = .ok column →
        ∃ directives, field.directives model = .ok directives ∧
          field.WritesMoments dialect directives (Field.dateMode directives mode) column) ∧
    (field.SetsDateMode ∨ field.Undated →
      ∀ other, field.column dialect mode model = field.column dialect other model) := by
  refine ⟨fun htype column h => Field.column_writesMoments htype h, ?_⟩
  rintro (hset | hundated) other
  · exact hset.column_eq mode other dialect model
  · exact hundated.column_eq mode other dialect model

namespace DatedReleases

def dates : Field :=
  { name := "dates", dbName := some "released", type := "DateTime", isRequired := true,
    isList := true, isUpdatedAt := true,
    defaultValue := some (.literal (.array [.string "2024-05-01", .array [.string "it's now"]]))
    documentation := some "All dates.\n drizzle.dateMode string" }

def release : Model :=
  { name := "Release", fields := [dates] }

end DatedReleases

open DatedReleases in
theorem datedReleases_followsDateMode :
    ∃ column, dates.column .postgres .date release = .ok column ∧
      column.base.render = "timestamp('released', \x7b mode: 'string', precision: 3 \x7d)" ∧
      (∃ fragment, Field.Dated .string
          (.array [.string "2024-05-01", .array [.string "it's now"]]) fragment ∧
        (column.fragment .postgres).insertDefaults = [.invoke "default" [fragment]]) ∧
      (∃ links, (column.fragment .postgres).links.map Fragment.render =
        links ++ ["$onUpdate(() => \x7b return new Date().toISOString(); \x7d)"]) ∧
      dates.column .postgres .string release = .ok column := by
  obtain ⟨hwrites, hsame⟩ := column_followsDateMode .postgres .date release dates
  have hset : dates.SetsDateMode :=
    ⟨_, rfl, " drizzle.dateMode string", by decide, "string", by decide⟩
  obtain ⟨column, h⟩ := exists_of_isOk (x := dates.column .postgres .date release) (by decide)
  have hread : dates.directives release = .ok { dateMode := some .string } := by decide
  obtain ⟨directives, hdirectives, hmoments⟩ := hwrites rfl column h
  obtain rfl := Except.ok.inj (hread.symm.trans hdirectives)
  obtain ⟨text, links, htext, hlinks⟩ := hmoments.update rfl
  obtain rfl := htext.spelled
  refine ⟨column, h, ?_, hmoments.literal rfl _ rfl, ⟨links, hlinks⟩, ?_⟩
  · exact ((hmoments.constructor_iff .string).mpr rfl).trans (by decide)
  · rw [← hsame (.inl hset) .string, h]

end SchemaWriter
