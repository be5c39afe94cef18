import Mathlib.Data.List.ReduceOption
import SchemaWriter.Proofs.Column.InsertDefaults
import SchemaWriter.Proofs.Fragment.Rendered

namespace SchemaWriter

open Outcome

namespace Modifier

def text? (dialect : Dialect) (modifier : Modifier) : Option String :=
  (modifier.fragment? dialect).map Fragment.render

section

variable (dialect : Dialect)

@[simp] theorem text?_array : array.text? dialect = some "array()" :=
  rfl

@[simp] theorem text?_narrow (type : String) (imports : List Requirement) :
    (narrow type imports).text? dialect = some ("$type<" ++ type ++ ">()") := by
  rw [text?, fragment?, Option.map_some, Option.some_inj, ← String.toList_inj]
  simp [Fragment.render, Fragment.renderAll]

@[simp] theorem text?_primaryKey (numbered : Bool) : (primaryKey numbered).text? dialect =
    some (if dialect = .sqlite ∧ numbered = true then "primaryKey(\x7b autoIncrement: true \x7d)"
      else "primaryKey()") := by
  cases dialect <;> cases numbered <;> decide

@[simp] theorem text?_notNull : notNull.text? dialect = some "notNull()" :=
  rfl

@[simp] theorem text?_unique : unique.text? dialect = some "unique()" :=
  rfl

@[simp] theorem text?_expression (source : String) (imports : List Requirement) :
    (expression source imports).text? dialect =
      some ("$defaultFn(() => \x7b return " ++ source ++ "; \x7d)") := by
  rw [text?, fragment?, Option.map_some, Fragment.render_withImports,
    Fragment.render_defaultFunction, Fragment.render_verbatim]

@[simp] theorem text?_literal (value : Fragment) :
    (literal value).text? dialect = some ("default(" ++ value.render ++ ")") := by
  rw [text?, fragment?, Option.map_some, Fragment.render_invoke, List.map_singleton,
    String.intercalate_singleton]
  rfl

@[simp] theorem text?_now (mode : DateMode) : (now mode).text? dialect =
    some (if dialect = .sqlite then "$defaultFn(() => \x7b return " ++ mode.now.render ++ "; \x7d)"
      else "defaultNow()") := by
  cases dialect <;> cases mode <;> decide

@[simp] theorem text?_autoincrement :
    autoincrement.text? dialect = dialect.autoincrement?.map (· ++ "()") := by
  cases dialect <;> decide

@[simp] theorem text?_onUpdate (mode : DateMode) : (onUpdate mode).text? dialect =
    some ("$onUpdate(() => \x7b return " ++ mode.now.render ++ "; \x7d)") := by
  cases dialect <;> cases mode <;> decide

end

end Modifier

theorem Column.render_fragment (dialect : Dialect) {column : Column}
    (hbase : column.base.call?.isSome = true) :
    (column.fragment dialect).render = ".".intercalate
      (column.base.render :: column.modifiers.filterMap (Modifier.text? dialect)) := by
  rw [Column.fragment, Column.link, Fragment.render_foldl_andThen hbase, List.map_filterMap]
  rfl

def Directives.declared? (directives : Directives) : Option (String × List Requirement) :=
  directives.custom.bind fun custom => custom.type.map fun type => (type, custom.imports)

namespace Field

def keyText (dialect : Dialect) (field : Field) : String :=
  if dialect = .sqlite ∧ field.isAutoincrement = true then
    "primaryKey(\x7b autoIncrement: true \x7d)"
  else "primaryKey()"

structure DefaultLink (dialect : Dialect) (mode : DateMode) (model : Model) (field : Field)
    (directives : Directives) (text : Option String) : Prop where
  isSome_iff : text.isSome = true ↔ directives.defaultExpression?.isSome = true ∨
    (∃ value, field.defaultValue = some (.literal value)) ∨
    (∃ arguments, field.defaultValue = some (.function "now" arguments)) ∨
    (∃ arguments, field.defaultValue = some (.function "autoincrement" arguments)) ∧
      (dialect = .postgres ∨ dialect = .mysql)
  directed : ∀ default, directives.defaultExpression? = some default →
    text = some ("$defaultFn(() => \x7b return " ++ default.expression ++ "; \x7d)")
  literal : directives.defaultExpression? = none →
    ∀ value, field.defaultValue = some (.literal value) →
      ∃ fragment, literal model field mode value.json = .ok fragment ∧
        text = some ("default(" ++ fragment.render ++ ")")
  now : directives.defaultExpression? = none →
    ∀ arguments, field.defaultValue = some (.function "now" arguments) →
      text = some (if dialect = .sqlite then
        "$defaultFn(() => \x7b return " ++ mode.now.render ++ "; \x7d)" else "defaultNow()")
  autoincrement : directives.defaultExpression? = none →
    ∀ arguments, field.defaultValue = some (.function "autoincrement" arguments) →
      text = dialect.autoincrement?.map (· ++ "()")

def links (dialect : Dialect) (mode : DateMode) (field : Field) (type default : Option String) :
    List (Option String) :=
  [if field.isList then some "array()" else none,
    type.map fun type => "$type<" ++ type ++ ">()",
    if field.isId then some (field.keyText dialect) else none,
    if field.isRequired ∧ ¬ field.isId then some "notNull()" else none,
    if field.isUnique ∧ ¬ field.isId then some "unique()" else none,
    default,
    if field.isUpdatedAt then some ("$onUpdate(() => \x7b return " ++ mode.now.render ++ "; \x7d)")
    else none]

section

variable {dialect : Dialect} {mode : DateMode} {model : Model} {field : Field}
  {directives : Directives} {modifiers : List Modifier}

theorem texts_listModifiers (h : field.listModifiers dialect model = .ok modifiers) :
    modifiers.filterMap (Modifier.text? dialect) =
      (if field.isList then some "array()" else none).toList := by
  unfold listModifiers at h
  split at h
  · rename_i hlist
    obtain rfl := Except.ok.inj h
    simp_all
  · split at h
    · rename_i hlist _
      obtain rfl := Except.ok.inj h
      simp_all
    · cases h

theorem texts_typeModifiers (dialect : Dialect) (directives : Directives) :
    (typeModifiers directives).filterMap (Modifier.text? dialect) =
      ((directives.declared?.map Prod.fst).map fun type => "$type<" ++ type ++ ">()").toList := by
  obtain ⟨custom, default, dateMode⟩ := directives
  match custom with
  | none => rfl
  | some ⟨imports, none, _⟩ => rfl
  | some ⟨imports, some type, _⟩ => simp [typeModifiers, Directives.declared?]

theorem texts_keyModifiers (dialect : Dialect) (field : Field) :
    field.keyModifiers.filterMap (Modifier.text? dialect) =
      (if field.isId then some (field.keyText dialect) else none).toList ++
        (if field.isRequired ∧ ¬ field.isId then some "notNull()" else none).toList := by
  unfold keyModifiers keyText
  cases field.isId with
  | false => cases field.isRequired <;> simp
  | true => simp

theorem texts_uniqueModifiers (dialect : Dialect) (field : Field) :
    field.uniqueModifiers.filterMap (Modifier.text? dialect) =
      (if field.isUnique ∧ ¬ field.isId then some "unique()" else none).toList := by
  unfold uniqueModifiers
  cases field.isId <;> cases field.isUnique <;> simp

theorem texts_updateModifiers (dialect : Dialect) (field : Field) (mode : DateMode) :
    (field.updateModifiers mode).filterMap (Modifier.text? dialect) =
      (if field.isUpdatedAt then
        some ("$onUpdate(() => \x7b return " ++ mode.now.render ++ "; \x7d)")
      else none).toList := by
  unfold updateModifiers
  cases field.isUpdatedAt <;> simp

theorem texts_defaultModifiers (dialect : Dialect)
    (h : field.defaultModifiers model directives mode = .ok modifiers) :
    ∃ text, field.DefaultLink dialect mode model directives text ∧
      modifiers.filterMap (Modifier.text? dialect) = text.toList := by
  unfold defaultModifiers at h
  cases hgiven : directives.defaultExpression? with
  | some given =>
    rw [hgiven] at h
    obtain rfl := Except.ok.inj h
    refine ⟨(Modifier.expression given.expression given.imports).text? dialect, ?_, by simp⟩
    constructor <;> simp [hgiven]
  | none =>
    rw [hgiven] at h
    dsimp only at h
    split at h
    · rename_i hvalue
      obtain rfl := Except.ok.inj h
      refine ⟨none, ?_, rfl⟩
      constructor <;> simp [hgiven, hvalue]
    · rename_i arguments hvalue
      obtain rfl := Except.ok.inj h
      refine ⟨(Modifier.now mode).text? dialect, ?_, by simp⟩
      constructor <;> simp [hgiven, hvalue]
    · rename_i arguments hvalue
      obtain rfl := Except.ok.inj h
      refine ⟨Modifier.autoincrement.text? dialect, ?_, by cases dialect <;> rfl⟩
      constructor <;> cases dialect <;> simp [hgiven, hvalue, Dialect.autoincrement?]
    · rename_i name arguments hnow hautoincrement hvalue
      obtain rfl := Except.ok.inj h
      refine ⟨none, ?_, rfl⟩
      constructor <;> simp_all
    · rename_i value hvalue
      obtain ⟨fragment, hfragment, rfl⟩ := map_eq_ok.mp h
      refine ⟨(Modifier.literal fragment).text? dialect, ?_, by simp⟩
      constructor <;> simp [hgiven, hvalue, hfragment]

theorem imports_typeModifiers (directives : Directives) :
    (typeModifiers directives).flatMap Modifier.requirements =
      (directives.declared?.map Prod.snd).getD [] := by
  obtain ⟨custom, default, dateMode⟩ := directives
  match custom with
  | none => rfl
  | some ⟨imports, none, _⟩ => rfl
  | some ⟨imports, some type, _⟩ => exact List.flatMap_singleton _ _

theorem imports_defaultModifiers
    (h : field.defaultModifiers model directives mode = .ok modifiers) :
    modifiers.flatMap Modifier.requirements =
      (directives.defaultExpression?.map (·.imports)).getD [] := by
  unfold defaultModifiers at h
  cases hgiven : directives.defaultExpression? with
  | some given =>
    rw [hgiven] at h
    obtain rfl := Except.ok.inj h
    exact List.flatMap_singleton _ _
  | none =>
    rw [hgiven] at h
    dsimp only at h
    split at h
    case h_5 =>
      obtain ⟨value, hvalue, rfl⟩ := map_eq_ok.mp h
      simp [Modifier.requirements, (isLiteral_literal hvalue).inert.1]
    all_goals
      obtain rfl := Except.ok.inj h
      rfl

end

end Field

theorem column_ordersLinks {dialect : Dialect} {mode : DateMode} {model : Model} {field : Field}
    {column : Column} (h : field.column dialect mode model = .ok column) :
    ∃ directives base default, field.directives model = .ok directives ∧
      field.constructorCall dialect model (Field.dateMode directives mode) = .ok base ∧
      base.call?.isSome = true ∧
      field.DefaultLink dialect (Field.dateMode directives mode) model directives default ∧
      (column.fragment dialect).render = ".".intercalate (base.render ::
        (field.links dialect (Field.dateMode directives mode) (directives.declared?.map Prod.fst)
          default).reduceOption) ∧
      (column.fragment dialect).imports = base.imports ++
        (directives.declared?.map Prod.snd).getD [] ++
        (directives.defaultExpression?.map (·.imports)).getD [] := by
  obtain ⟨directives, call, list, modifiers, hdirectives, hcall, hlist, hmodifiers, rfl⟩ :=
    Field.column_eq_ok.mp h
  have hbase := Field.call?_constructorCall hcall
  obtain ⟨default, hdefault, htexts⟩ := Field.texts_defaultModifiers dialect hmodifiers
  refine ⟨directives, call, default, hdirectives, hcall, hbase, hdefault, ?_, ?_⟩
  · rw [Column.render_fragment dialect hbase]
    simp only [List.filterMap_append, Field.texts_listModifiers hlist, Field.texts_typeModifiers,
      Field.texts_keyModifiers, Field.texts_uniqueModifiers, htexts, Field.texts_updateModifiers,
      Field.links, reduceOption_cons, List.reduceOption_nil, List.append_assoc, List.append_nil]
  · simp only [Column.imports_fragment, List.flatMap_append,
      (Field.listModifiers_plain hlist).requirements, field.keyModifiers_plain.requirements,
      field.uniqueModifiers_plain.requirements, (field.updateModifiers_plain _).requirements,
      Field.imports_typeModifiers, Field.imports_defaultModifiers hmodifiers, List.nil_append,
      List.append_nil, List.append_assoc]

namespace TaggedPosts

def tags : Field :=
  { name := "tags", dbName := some "tag_list", type := "String", isRequired := true, isList := true,
    isUnique := true, isUpdatedAt := true,
    documentation := some ("drizzle.custom \x7b\"imports\": [\x7b\"name\": \"Tag\", " ++
      "\"module\": \"~/tag\"\x7d], \"$type\": \"Tag\"\x7d\ndrizzle.default ~/tag::noTags") }

def post : Model :=
  { name := "Post", fields := [tags] }

def directives : Directives :=
  { custom := some ⟨[.named ["Tag"] "~/tag"], some "Tag", none⟩
    default := some ⟨[.named ["noTags"] "~/tag"], "noTags()"⟩ }

end TaggedPosts

open TaggedPosts in
theorem taggedPosts_ordersLinks :
    ∃ column, tags.column .postgres .string post = .ok column ∧
      (column.fragment .postgres).render = "text('tag_list').array().$type<Tag>().notNull()" ++
        ".unique().$defaultFn(() => \x7b return noTags(); \x7d)" ++
        ".$onUpdate(() => \x7b return new Date().toISOString(); \x7d)" ∧
      (column.fragment .postgres).imports = [.named ["text"] "drizzle-orm/pg-core",
        .named ["Tag"] "~/tag", .named ["noTags"] "~/tag"] := by
  have hread : tags.directives post = .ok directives := by decide +kernel
  obtain ⟨column, h⟩ : ∃ column, tags.column .postgres .string post = .ok column :=
    ⟨_, Field.column_eq_ok.mpr ⟨directives, _, _, _, hread, rfl, rfl, rfl, rfl⟩⟩
  obtain ⟨d, base, default, hdirectives, hbase, -, hdefault, hrender, himports⟩ :=
    column_ordersLinks h
  obtain rfl := Except.ok.inj (hread.symm.trans hdirectives)
  obtain rfl := Except.ok.inj hbase
  obtain rfl := hdefault.directed _ rfl
  exact ⟨column, h, hrender.trans (by decide +kernel), himports⟩

end SchemaWriter
