import SchemaWriter.Proofs.Column.Built
import SchemaWriter.Proofs.Schema.EnumDefaults

namespace SchemaWriter

open Outcome

namespace Fragment

def isNumbering : String × Fragment → Bool
  | ("autoIncrement", .boolean true) => true
  | _ => false

def givesDefault (link : Fragment) : Bool :=
  match link.call? with
  | some (callee, arguments) =>
    callee ∈ ["default", "defaultNow", "$defaultFn", "generatedByDefaultAsIdentity",
        "autoincrement"] ||
      callee = "primaryKey" && arguments.any fun options => options.properties.any isNumbering
  | none => false

def insertDefaults (column : Fragment) : List Fragment :=
  column.links.filter givesDefault

end Fragment

namespace Modifier

def givesDefault (dialect : Dialect) : Modifier → Bool
  | .primaryKey numbered => dialect = .sqlite && numbered
  | .expression _ _ | .literal _ | .now _ | .autoincrement => true
  | .array | .narrow _ _ | .notNull | .unique | .onUpdate _ => false

theorem givesDefault_fragment? {dialect : Dialect} {modifier : Modifier} {link : Fragment}
    (h : modifier.fragment? dialect = some link) :
    link.givesDefault = modifier.givesDefault dialect := by
  cases modifier with
  | primaryKey numbered =>
    obtain rfl := Option.some.inj h
    cases dialect <;> cases numbered <;> decide
  | now mode =>
    obtain rfl := Option.some.inj h
    cases dialect <;> rfl
  | autoincrement =>
    obtain ⟨name, hname, rfl⟩ := Option.map_eq_some_iff.mp h
    cases dialect <;> cases hname <;> rfl
  | expression source imports =>
    obtain rfl := Option.some.inj h
    simp [Fragment.givesDefault, givesDefault, defaultFunction]
  | literal value =>
    obtain rfl := Option.some.inj h
    simp [Fragment.givesDefault, givesDefault]
  | array | narrow | notNull | unique | onUpdate =>
    obtain rfl := Option.some.inj h
    rfl

theorem filter_links (dialect : Dialect) (modifiers : List Modifier) :
    (modifiers.filterMap (fragment? dialect)).filter Fragment.givesDefault =
      (modifiers.filter (givesDefault dialect)).filterMap (fragment? dialect) := by
  induction modifiers with
  | nil => rfl
  | cons modifier modifiers ih =>
    cases hlink : modifier.fragment? dialect with
    | none =>
      rw [List.filterMap_cons_none hlink, ih, List.filter_cons]
      split
      · rw [List.filterMap_cons_none hlink]
      · rfl
    | some link =>
      rw [List.filterMap_cons_some hlink, List.filter_cons, List.filter_cons, ih,
        givesDefault_fragment? hlink]
      split
      · rw [List.filterMap_cons_some hlink]
      · rfl

end Modifier

theorem Column.insertDefaults_fragment (dialect : Dialect) {column : Column}
    (hbase : column.base.call?.isSome = true) :
    (column.fragment dialect).insertDefaults =
      (column.modifiers.filter (Modifier.givesDefault dialect)).filterMap
        (Modifier.fragment? dialect) := by
  rw [Column.fragment, Column.link, Fragment.insertDefaults, Fragment.links_foldl_andThen hbase,
    Modifier.filter_links]

namespace Field

def numbersByKey (dialect : Dialect) (field : Field) : Bool :=
  dialect = .sqlite && field.isId && field.isAutoincrement

theorem numbersByKey_iff {dialect : Dialect} {field : Field} : field.numbersByKey dialect = true ↔
    dialect = .sqlite ∧ field.isId = true ∧ field.isAutoincrement = true := by
  simp [numbersByKey, and_assoc]

theorem filter_listModifiers {dialect : Dialect} {model : Model} {field : Field}
    {list : List Modifier} (h : field.listModifiers dialect model = .ok list) :
    list.filter (Modifier.givesDefault dialect) = [] := by
  unfold listModifiers at h
  split at h
  · obtain rfl := Except.ok.inj h
    rfl
  · split at h
    · obtain rfl := Except.ok.inj h
      rfl
    · cases h

theorem filter_typeModifiers (dialect : Dialect) (directives : Directives) :
    (typeModifiers directives).filter (Modifier.givesDefault dialect) = [] := by
  unfold typeModifiers
  split <;> rfl

theorem filter_keyModifiers (dialect : Dialect) (field : Field) :
    field.keyModifiers.filter (Modifier.givesDefault dialect) =
      if field.numbersByKey dialect then [.primaryKey true] else [] := by
  unfold keyModifiers numbersByKey
  cases field.isId with
  | false => cases field.isRequired <;> simp [Modifier.givesDefault]
  | true =>
    cases field.isAutoincrement <;> cases dialect <;> rfl

theorem filter_uniqueModifiers (dialect : Dialect) (field : Field) :
    field.uniqueModifiers.filter (Modifier.givesDefault dialect) = [] := by
  unfold uniqueModifiers
  split <;> rfl

theorem filter_updateModifiers (dialect : Dialect) (field : Field) (mode : DateMode) :
    (field.updateModifiers mode).filter (Modifier.givesDefault dialect) = [] := by
  unfold updateModifiers
  split <;> rfl

theorem filter_defaultModifiers {model : Model} {field : Field} {directives : Directives}
    {mode : DateMode} {modifiers : List Modifier} (dialect : Dialect)
    (h : field.defaultModifiers model directives mode = .ok modifiers) :
    modifiers.filter (Modifier.givesDefault dialect) = modifiers ∧ modifiers.length ≤ 1 := by
  unfold defaultModifiers at h
  split at h
  · obtain rfl := Except.ok.inj h
    exact ⟨rfl, Nat.le_refl 1⟩
  · split at h
    case h_5 =>
      obtain ⟨value, -, rfl⟩ := map_eq_ok.mp h
      exact ⟨rfl, Nat.le_refl 1⟩
    all_goals
      obtain rfl := Except.ok.inj h
      simp [Modifier.givesDefault]

theorem defaultModifiers_autoincrement {model : Model} {field : Field} {directives : Directives}
    {mode : DateMode} {modifiers : List Modifier} (hnone : directives.defaultExpression? = none)
    (hautoincrement : field.isAutoincrement = true)
    (h : field.defaultModifiers model directives mode = .ok modifiers) :
    modifiers = [.autoincrement] := by
  unfold isAutoincrement at hautoincrement
  rw [defaultModifiers, hnone] at h
  split at hautoincrement
  · rename_i name arguments hvalue
    obtain rfl := of_decide_eq_true hautoincrement
    simp only [hvalue] at h
    exact (Except.ok.inj h).symm
  · cases hautoincrement

theorem insertDefaults_column {dialect : Dialect} {mode : DateMode} {model : Model} {field : Field}
    {column : Column} (h : field.column dialect mode model = .ok column) :
    ∃ directives default, field.directives model = .ok directives ∧
      field.defaultModifiers model directives (dateMode directives mode) = .ok default ∧
      (column.fragment dialect).insertDefaults =
        (if field.numbersByKey dialect then [dialect.primaryKey true] else []) ++
          default.filterMap (Modifier.fragment? dialect) := by
  obtain ⟨directives, call, list, default, hdirectives, hcall, hlist, hdefault, rfl⟩ :=
    column_eq_ok.mp h
  refine ⟨directives, default, hdirectives, hdefault, ?_⟩
  rw [Column.insertDefaults_fragment dialect (call?_constructorCall hcall)]
  simp only [List.filter_append, filter_listModifiers hlist, filter_typeModifiers,
    filter_keyModifiers, filter_uniqueModifiers, (filter_defaultModifiers dialect hdefault).1,
    filter_updateModifiers, List.nil_append, List.append_nil, List.filterMap_append]
  split <;> rfl

theorem insertDefaults_of_not_autoincrement {dialect : Dialect} {mode : DateMode} {model : Model}
    {field : Field} {column : Column} {directives : Directives}
    (hplain : field.isAutoincrement = false) (hdirectives : field.directives model = .ok directives)
    (h : field.column dialect mode model = .ok column) :
    ∃ default, field.defaultModifiers model directives (dateMode directives mode) = .ok default ∧
      (column.fragment dialect).insertDefaults =
        default.filterMap (Modifier.fragment? dialect) := by
  obtain ⟨read, default, hread, hdefault, hlinks⟩ := insertDefaults_column h
  obtain rfl := Except.ok.inj (hdirectives.symm.trans hread)
  refine ⟨default, hdefault, ?_⟩
  rw [hlinks, numbersByKey, hplain, Bool.and_false, if_neg Bool.false_ne_true, List.nil_append]

theorem render_defaultModifiers (dialect : Dialect) {model : Model} {field : Field}
    {directives : Directives} {mode : DateMode} {modifiers : List Modifier}
    {default : Directive.DefaultExpression}
    (hdefault : directives.defaultExpression? = some default)
    (h : field.defaultModifiers model directives mode = .ok modifiers) :
    (modifiers.filterMap (Modifier.fragment? dialect)).map Fragment.render =
      ["$defaultFn(() => \x7b return " ++ default.expression ++ "; \x7d)"] := by
  rw [defaultModifiers, hdefault] at h
  obtain rfl := Except.ok.inj h
  rw [List.map_eq_singleton_iff]
  refine ⟨_, rfl, ?_⟩
  rw [← String.toList_inj]
  simp [defaultFunction, Fragment.thunk, Fragment.invoke, Fragment.withImports, Fragment.render,
    Fragment.renderAll]

theorem render_numberedKey (dialect : Dialect) (field : Field) :
    (if field.numbersByKey dialect then [dialect.primaryKey true] else []).map Fragment.render =
      if field.numbersByKey dialect then ["primaryKey(\x7b autoIncrement: true \x7d)"] else [] := by
  cases hnumbers : field.numbersByKey dialect with
  | false => rfl
  | true =>
    obtain ⟨rfl, -, -⟩ := numbersByKey_iff.mp hnumbers
    decide

theorem defaultLinks_length {dialect : Dialect} {model : Model} {field : Field}
    {directives : Directives} {mode : DateMode} {modifiers : List Modifier}
    (hnumbers : field.numbersByKey dialect = true)
    (h : field.defaultModifiers model directives mode = .ok modifiers) :
    (modifiers.filterMap (Modifier.fragment? dialect)).length =
      if directives.defaultExpression?.isSome = true then 1 else 0 := by
  obtain ⟨rfl, -, hautoincrement⟩ := numbersByKey_iff.mp hnumbers
  cases hexpression : directives.defaultExpression? with
  | none =>
    rw [defaultModifiers_autoincrement hexpression hautoincrement h]
    rfl
  | some given =>
    rw [← List.length_map Fragment.render, render_defaultModifiers _ hexpression h]
    rfl

end Field

theorem column_insertDefaults_iff {dialect : Dialect} {mode : DateMode} {model : Model}
    {field : Field} {column : Column} (h : field.column dialect mode model = .ok column) :
    ∃ directives, field.directives model = .ok directives ∧
      ((column.fragment dialect).insertDefaults.length ≤ 1 ↔
        ¬ (field.numbersByKey dialect = true ∧ directives.defaultExpression?.isSome = true)) ∧
      ∀ default, directives.defaultExpression? = some default →
        (column.fragment dialect).insertDefaults.map Fragment.render =
          (if field.numbersByKey dialect then ["primaryKey(\x7b autoIncrement: true \x7d)"] else []) ++
            ["$defaultFn(() => \x7b return " ++ default.expression ++ "; \x7d)"] := by
  obtain ⟨directives, default, hdirectives, hdefault, hlinks⟩ := Field.insertDefaults_column h
  refine ⟨directives, hdirectives, ?_, fun given hgiven => ?_⟩
  · rw [hlinks]
    cases hnumbers : field.numbersByKey dialect with
    | false =>
      have hlength := (Field.filter_defaultModifiers dialect hdefault).2
      simpa using (List.length_filterMap_le _ _).trans hlength
    | true =>
      have hlength := Field.defaultLinks_length hnumbers hdefault
      cases hexpression : directives.defaultExpression? <;> simp [hlength, hexpression]
  · rw [hlinks, List.map_append, Field.render_numberedKey,
      Field.render_defaultModifiers dialect hgiven hdefault]

namespace NumberedKeys

def key : Field :=
  { name := "id", type := "Int", isId := true, defaultValue := some (.function "autoincrement" []),
    documentation := some "drizzle.default nanoid::nanoid" }

def account : Model :=
  { name := "Account", fields := [key] }

end NumberedKeys

theorem numberedKeys_insertDefaults :
    ∃ column, NumberedKeys.key.column .postgres .date NumberedKeys.account = .ok column ∧
      (column.fragment .postgres).insertDefaults.length ≤ 1 ∧
      (column.fragment .postgres).insertDefaults.map Fragment.render =
        ["$defaultFn(() => \x7b return nanoid(); \x7d)"] := by
  have hbuilt : (NumberedKeys.key.column .postgres .date NumberedKeys.account).isOk = true := by
    decide
  obtain ⟨column, h⟩ := exists_of_isOk hbuilt
  obtain ⟨directives, hdirectives, hlength, hrender⟩ := column_insertDefaults_iff h
  have hread : NumberedKeys.key.directives NumberedKeys.account = .ok
      { default := some ⟨[⟨.named ["nanoid"], .package "nanoid"⟩], "nanoid()"⟩ } := by
    decide
  obtain rfl := Except.ok.inj (hread.symm.trans hdirectives)
  exact ⟨column, h, hlength.mpr (by decide), hrender _ rfl⟩

theorem numberedKeys_not_single_insertDefault :
    ∃ column, NumberedKeys.key.column .sqlite .date NumberedKeys.account = .ok column ∧
      ¬ (column.fragment .sqlite).insertDefaults.length ≤ 1 ∧
      (column.fragment .sqlite).insertDefaults.map Fragment.render =
        ["primaryKey(\x7b autoIncrement: true \x7d)",
          "$defaultFn(() => \x7b return nanoid(); \x7d)"] := by
  obtain ⟨column, h, hlength⟩ := exists_of_any
    (p := fun column : Column => decide ((column.fragment .sqlite).insertDefaults.length = 2 ∧
      (column.fragment .sqlite).insertDefaults.map Fragment.render =
        ["primaryKey(\x7b autoIncrement: true \x7d)",
          "$defaultFn(() => \x7b return nanoid(); \x7d)"]))
    (x := NumberedKeys.key.column .sqlite .date NumberedKeys.account) (by decide)
  obtain ⟨hlength, hrender⟩ := of_decide_eq_true hlength
  exact ⟨column, h, by omega, hrender⟩

end SchemaWriter
