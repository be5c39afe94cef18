import SchemaWriter.Proofs.Column.Built
import SchemaWriter.Proofs.Directive.BlankCode
import SchemaWriter.Proofs.Requirement.Merged

namespace SchemaWriter

open Outcome

theorem Directives.isNamed_of_mem_imports {documentation : String} {d : Directives}
    (h : parse documentation = .ok d) {r : Requirement} (hr : r ∈ d.imports) :
    r.isNamed = true := by
  obtain ⟨tag, payload, -, horigin⟩ := (mem_imports_iff h).mp hr
  cases horigin with
  | json _ hr => subst hr; rfl
  | shortForm _ _ _ _ hr => subst hr; rfl

namespace Field

variable {dialect : Dialect} {mode : DateMode} {model : Model} {field : Field}
  {directives : Directives}

theorem isNamed_of_mem_directives (h : field.directives model = .ok directives) {r : Requirement}
    (hr : r ∈ directives.imports) : r.isNamed = true := by
  unfold Field.directives at h
  split at h
  · obtain rfl := Except.ok.inj h
    cases hr
  · exact Directives.isNamed_of_mem_imports (mapError_eq_ok.mp h) hr

theorem requirements_typeModifiers :
    (typeModifiers directives).flatMap Modifier.requirements ⊆ directives.imports := by
  intro r hr
  unfold typeModifiers at hr
  split at hr
  · rename_i imports type default hcustom
    rw [List.flatMap_singleton] at hr
    exact Directives.mem_imports.mpr (.inl ⟨_, hcustom, hr⟩)
  · cases hr

theorem requirements_defaultModifiers {modifiers : List Modifier}
    (h : field.defaultModifiers model directives mode = .ok modifiers) :
    modifiers.flatMap Modifier.requirements ⊆ directives.imports := by
  unfold defaultModifiers at h
  split at h
  · rename_i default hdefault
    obtain rfl := Except.ok.inj h
    intro r hr
    rw [List.flatMap_singleton] at hr
    obtain hown | ⟨-, custom, expression, hcustom, -, rfl⟩ :=
      Directives.defaultExpression?_eq_some_iff.mp hdefault
    · exact Directives.mem_imports.mpr (.inr ⟨default, hown, hr⟩)
    · exact Directives.mem_imports.mpr (.inl ⟨custom, hcustom, hr⟩)
  · split at h
    case h_5 =>
      obtain ⟨value, hvalue, rfl⟩ := map_eq_ok.mp h
      simp [Modifier.requirements, (isLiteral_literal hvalue).inert.1]
    all_goals
      obtain rfl := Except.ok.inj h
      simp [Modifier.requirements]

theorem isNamed_of_mem_column {column : Column}
    (h : field.column dialect mode model = .ok column) {r : Requirement}
    (hr : r ∈ (column.fragment dialect).imports) : r.isNamed = true := by
  obtain ⟨directives, call, list, default, hdirectives, hcall, hlist, hdefault, rfl⟩ :=
    column_eq_ok.mp h
  simp only [Column.imports_fragment, List.flatMap_append, (listModifiers_plain hlist).requirements,
    field.keyModifiers_plain.requirements, field.uniqueModifiers_plain.requirements,
    (field.updateModifiers_plain _).requirements, List.nil_append, List.append_nil,
    List.mem_append] at hr
  rcases hr with hr | hr | hr
  · rcases constructorCall_imports hcall with ⟨scalar, -, himports⟩ | ⟨-, -, himports⟩
    · rw [himports, List.mem_singleton] at hr
      exact hr ▸ rfl
    · rw [himports, List.mem_singleton] at hr
      exact hr ▸ rfl
  · exact isNamed_of_mem_directives hdirectives (requirements_typeModifiers hr)
  · exact isNamed_of_mem_directives hdirectives (requirements_defaultModifiers hdefault hr)

end Field

end SchemaWriter
