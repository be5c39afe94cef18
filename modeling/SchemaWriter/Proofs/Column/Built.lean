import SchemaWriter.Proofs.Column.Literals
import SchemaWriter.Proofs.Directive.Parsed

namespace SchemaWriter

open Outcome
open Requirement (Foreign)

namespace Modifier

def Undirected : Modifier → Prop
  | .narrow _ _ | .expression _ _ => False
  | .literal value => value.IsLiteral
  | _ => True

theorem Plain.undirected {modifiers : List Modifier} (h : Plain modifiers) :
    ∀ modifier ∈ modifiers, modifier.Undirected := by
  intro modifier hmodifier
  have hplain := h modifier hmodifier
  cases modifier <;> trivial

theorem requirements_of_undirected {modifiers : List Modifier}
    (h : ∀ modifier ∈ modifiers, modifier.Undirected) :
    modifiers.flatMap Modifier.requirements = [] := by
  rw [List.flatMap_eq_nil_iff]
  intro modifier hmodifier
  have hundirected := h modifier hmodifier
  cases modifier with
  | narrow | expression => exact hundirected.elim
  | literal value => exact hundirected.inert.1
  | _ => rfl

end Modifier

namespace Field

theorem column_eq_ok {dialect : Dialect} {mode : DateMode} {model : Model} {field : Field}
    {column : Column} :
    field.column dialect mode model = .ok column ↔ ∃ directives call list default,
      field.directives model = .ok directives ∧
      field.constructorCall dialect model (dateMode directives mode) = .ok call ∧
      field.listModifiers dialect model = .ok list ∧
      field.defaultModifiers model directives (dateMode directives mode) = .ok default ∧
      column = ⟨call, list ++ typeModifiers directives ++ field.keyModifiers ++
        field.uniqueModifiers ++ default ++ field.updateModifiers (dateMode directives mode)⟩ := by
  simp only [Field.column, base, bind_eq_ok, pure_eq_ok]
  constructor
  · rintro ⟨directives, hdirectives, _, ⟨call, hcall, list, hlist, rfl⟩, default, hdefault, rfl⟩
    exact ⟨directives, call, list, default, hdirectives, hcall, hlist, hdefault, rfl⟩
  · rintro ⟨directives, call, list, default, hdirectives, hcall, hlist, hdefault, rfl⟩
    exact ⟨directives, hdirectives, _, ⟨call, hcall, list, hlist, rfl⟩, default, hdefault, rfl⟩

theorem columnType?_eq_scalar_iff {field : Field} {scalar : Scalar} :
    field.columnType? = some (.scalar scalar) ↔
      field.kind = .scalar ∧ Scalar.ofName? field.type = some scalar := by
  unfold columnType?
  cases field.kind with
  | scalar => cases Scalar.ofName? field.type <;> simp
  | enum | object | unsupported => simp

theorem columnType?_eq_enum_iff {field : Field} :
    field.columnType? = some .enum ↔ field.kind = .enum := by
  unfold columnType?
  cases field.kind with
  | scalar => cases Scalar.ofName? field.type <;> simp
  | enum | object | unsupported => simp

theorem constructorCall_imports {dialect : Dialect} {model : Model} {mode : DateMode}
    {field : Field} {call : Fragment}
    (h : field.constructorCall dialect model mode = .ok call) :
    (∃ scalar, field.columnType? = some (.scalar scalar) ∧
      call.imports = [dialect.coreImport (dialect.constructor mode scalar).function]) ∨
    (field.kind = .enum ∧ dialect.hasEnums = true ∧ call.imports =
      [.sibling (Naming.enumBinding field.type) (Naming.enumModule field.type)]) := by
  unfold constructorCall at h
  split at h
  · rename_i scalar hscalar
    obtain rfl := Except.ok.inj h
    refine .inl ⟨scalar, hscalar, ?_⟩
    generalize dialect.constructor mode scalar = constructor
    have hoptions : ∀ options : List (String × OptionValue),
        options.flatMap (fun option => option.2.fragment.imports) = [] := by
      intro options
      simp only [List.flatMap_eq_nil_iff]
      rintro ⟨key, value⟩ -
      cases value <;> rfl
    by_cases hempty : constructor.options.isEmpty = true <;>
      simp [Dialect.construct, Constructor.call, Fragment.withImports, Fragment.invoke, hempty,
        Fragment.imports, Fragment.importsOfAll, List.flatMap_map, hoptions]
  · rename_i hkind
    split at h
    · rename_i henums
      obtain rfl := Except.ok.inj h
      exact .inr ⟨columnType?_eq_enum_iff.mp hkind, henums, rfl⟩
    · simp at h
  · simp at h
  · simp at h

theorem directives_importPackages {model : Model} {field : Field} {directives : Directives}
    (h : field.directives model = .ok directives) : directives.ImportPackages := by
  unfold Field.directives at h
  split at h
  · obtain rfl := Except.ok.inj h
    exact ⟨by simp, by simp⟩
  · exact Directives.parse_importPackages (mapError_eq_ok.mp h)

theorem typeModifiers_foreign {directives : Directives} (h : directives.ImportPackages) :
    Foreign ((typeModifiers directives).flatMap Modifier.requirements) := by
  unfold typeModifiers
  split
  · rename_i imports type default hcustom
    simpa [Modifier.requirements] using h.1 _ hcustom
  · simp [Foreign]

theorem defaultModifiers_foreign {model : Model} {field : Field} {directives : Directives}
    {mode : DateMode} {modifiers : List Modifier} (hd : directives.ImportPackages)
    (h : field.defaultModifiers model directives mode = .ok modifiers) :
    Foreign (modifiers.flatMap Modifier.requirements) := by
  unfold defaultModifiers at h
  split at h
  · rename_i default hdefault
    obtain rfl := Except.ok.inj h
    simpa [Modifier.requirements] using Directives.defaultExpression?_foreign hd hdefault
  · split at h
    case h_5 =>
      obtain ⟨value, hvalue, rfl⟩ := map_eq_ok.mp h
      simp [Foreign, Modifier.requirements, (isLiteral_literal hvalue).inert.1]
    all_goals
      obtain rfl := Except.ok.inj h
      simp [Foreign, Modifier.requirements]

theorem keyModifiers_plain (field : Field) : Modifier.Plain field.keyModifiers := by
  unfold keyModifiers
  split
  · simp [Modifier.Plain, Modifier.isPlain]
  · split <;> simp [Modifier.Plain, Modifier.isPlain]

theorem uniqueModifiers_plain (field : Field) : Modifier.Plain field.uniqueModifiers := by
  unfold uniqueModifiers
  split <;> simp [Modifier.Plain, Modifier.isPlain]

theorem updateModifiers_plain (field : Field) (mode : DateMode) :
    Modifier.Plain (field.updateModifiers mode) := by
  unfold updateModifiers
  split <;> simp [Modifier.Plain, Modifier.isPlain]

theorem listModifiers_plain {field : Field} {dialect : Dialect} {model : Model}
    {list : List Modifier} (h : field.listModifiers dialect model = .ok list) :
    Modifier.Plain list := by
  unfold listModifiers at h
  split at h
  · obtain rfl := Except.ok.inj h
    simp [Modifier.Plain]
  · split at h
    · obtain rfl := Except.ok.inj h
      simp [Modifier.Plain, Modifier.isPlain]
    · simp at h

theorem column_sibling {dialect : Dialect} {mode : DateMode} {model : Model} {field : Field}
    {column : Column} (h : field.column dialect mode model = .ok column) {r : Requirement}
    (hr : r ∈ (column.fragment dialect).imports) (hsibling : r.source.isSibling = true) :
    field.kind = .enum ∧ dialect.hasEnums = true ∧
      r = .sibling (Naming.enumBinding field.type) (Naming.enumModule field.type) := by
  obtain ⟨directives, call, list, default, hdirectives, hcall, hlist, hdefault, rfl⟩ :=
    column_eq_ok.mp h
  have hpackages := directives_importPackages hdirectives
  simp only [Column.imports_fragment, List.flatMap_append, (listModifiers_plain hlist).requirements,
    field.keyModifiers_plain.requirements, field.uniqueModifiers_plain.requirements,
    (field.updateModifiers_plain _).requirements, List.nil_append, List.append_nil,
    List.mem_append] at hr
  rcases hr with hr | hr | hr
  · rcases constructorCall_imports hcall with ⟨scalar, -, himports⟩ | ⟨hkind, henums, himports⟩
    · rw [himports, List.mem_singleton] at hr
      simp [hr, Dialect.coreImport, Requirement.named, Specifier.isSibling] at hsibling
    · rw [himports, List.mem_singleton] at hr
      exact ⟨hkind, henums, hr⟩
  · simp [typeModifiers_foreign hpackages r hr] at hsibling
  · simp [defaultModifiers_foreign hpackages hdefault r hr] at hsibling

theorem enum_mem_column_imports {dialect : Dialect} {mode : DateMode} {model : Model}
    {field : Field} {column : Column} (h : field.column dialect mode model = .ok column)
    (hkind : field.kind = .enum) :
    .sibling (Naming.enumBinding field.type) (Naming.enumModule field.type) ∈
      (column.fragment dialect).imports := by
  obtain ⟨_, call, _, _, -, hcall, -, -, rfl⟩ := column_eq_ok.mp h
  rw [Column.imports_fragment]
  refine List.mem_append_left _ ?_
  rcases constructorCall_imports hcall with ⟨scalar, hscalar, -⟩ | ⟨-, -, himports⟩
  · rw [columnType?_eq_enum_iff.mpr hkind] at hscalar
    cases hscalar
  · rw [himports, List.mem_singleton]

def Bare (field : Field) : Prop :=
  ∀ documentation ∈ field.documentation, ∀ line ∈ Directives.recognized documentation,
    line.1 ≠ .custom ∧ line.1 ≠ .default

instance (field : Field) : Decidable field.Bare :=
  inferInstanceAs (Decidable (∀ documentation ∈ field.documentation,
    ∀ line ∈ Directives.recognized documentation, line.1 ≠ .custom ∧ line.1 ≠ .default))

theorem directives_bare {model : Model} {field : Field} {directives : Directives}
    (hbare : field.Bare) (h : field.directives model = .ok directives) :
    directives.custom = none ∧ directives.default = none := by
  unfold Field.directives at h
  split at h
  · obtain rfl := Except.ok.inj h
    exact ⟨rfl, rfl⟩
  · rename_i documentation hdocumentation
    exact Directives.parse_bare (hbare documentation hdocumentation) (mapError_eq_ok.mp h)

theorem typeModifiers_bare {directives : Directives}
    (hbare : directives.custom = none ∧ directives.default = none) :
    typeModifiers directives = [] := by
  simp [typeModifiers, hbare.1]

theorem defaultModifiers_bare {model : Model} {field : Field} {directives : Directives}
    {mode : DateMode} {modifiers : List Modifier}
    (hbare : directives.custom = none ∧ directives.default = none)
    (h : field.defaultModifiers model directives mode = .ok modifiers) :
    ∀ modifier ∈ modifiers, modifier.Undirected := by
  have hnone : directives.defaultExpression? = none := by
    simp [Directives.defaultExpression?, hbare]
  rw [defaultModifiers, hnone] at h
  dsimp only at h
  split at h
  case h_5 =>
    obtain ⟨value, hvalue, rfl⟩ := map_eq_ok.mp h
    exact List.forall_mem_singleton.mpr (isLiteral_literal hvalue)
  all_goals
    obtain rfl := Except.ok.inj h
    simp [Modifier.Undirected]

theorem column_eq_of_bare {dialect : Dialect} {mode : DateMode} {model : Model} {field : Field}
    {column : Column} (hbare : field.Bare) (h : field.column dialect mode model = .ok column) :
    ∃ directives, field.directives model = .ok directives ∧
      field.constructorCall dialect model (dateMode directives mode) = .ok column.base ∧
      ∀ modifier ∈ column.modifiers, modifier.Undirected := by
  obtain ⟨directives, call, list, default, hdirectives, hcall, hlist, hdefault, rfl⟩ :=
    column_eq_ok.mp h
  have hnone := directives_bare hbare hdirectives
  refine ⟨directives, hdirectives, hcall, ?_⟩
  simp only [List.forall_mem_append, typeModifiers_bare hnone]
  exact ⟨⟨⟨⟨⟨(listModifiers_plain hlist).undirected, List.forall_mem_nil _⟩,
    field.keyModifiers_plain.undirected⟩,
    field.uniqueModifiers_plain.undirected⟩, defaultModifiers_bare hnone hdefault⟩,
    (field.updateModifiers_plain _).undirected⟩

theorem column_imports_of_bare {dialect : Dialect} {mode : DateMode} {model : Model} {field : Field}
    {column : Column} (hbare : field.Bare) (h : field.column dialect mode model = .ok column) :
    (∃ directives scalar, field.directives model = .ok directives ∧
      field.columnType? = some (.scalar scalar) ∧ (column.fragment dialect).imports =
        [dialect.coreImport (dialect.constructor (dateMode directives mode) scalar).function]) ∨
    (field.kind = .enum ∧ (column.fragment dialect).imports =
      [.sibling (Naming.enumBinding field.type) (Naming.enumModule field.type)]) := by
  obtain ⟨directives, hdirectives, hcall, hmodifiers⟩ := column_eq_of_bare hbare h
  rw [Column.imports_fragment, Modifier.requirements_of_undirected hmodifiers, List.append_nil]
  rcases constructorCall_imports hcall with ⟨scalar, hscalar, himports⟩ | ⟨hkind, -, himports⟩
  · exact .inl ⟨directives, scalar, hdirectives, hscalar, himports⟩
  · exact .inr ⟨hkind, himports⟩

end Field

end SchemaWriter
