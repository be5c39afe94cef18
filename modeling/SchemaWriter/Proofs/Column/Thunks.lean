import SchemaWriter.Proofs.Column.Built

namespace SchemaWriter

open Outcome

def Fragment.OnlyThunks (fragment : Fragment) : Prop :=
  ∀ lambda ∈ fragment.lambdas, lambda.1 = []

theorem Fragment.Inert.onlyThunks {fragment : Fragment} (h : fragment.Inert) :
    fragment.OnlyThunks := by
  simp [OnlyThunks, h.2]

namespace Modifier

def OnlyThunks : Modifier → Prop
  | .literal value => value.OnlyThunks
  | _ => True

theorem onlyThunks_fragment? {dialect : Dialect} {modifier : Modifier} {link : Fragment}
    (hmodifier : modifier.OnlyThunks) (h : modifier.fragment? dialect = some link) :
    link.OnlyThunks := by
  cases modifier with
  | literal value =>
    obtain rfl := Option.some.inj h
    simpa [Fragment.OnlyThunks, OnlyThunks] using hmodifier
  | autoincrement =>
    obtain ⟨name, -, rfl⟩ := Option.map_eq_some_iff.mp h
    simp [Fragment.OnlyThunks]
  | primaryKey numbered =>
    obtain rfl := Option.some.inj h
    cases dialect <;> cases numbered <;> simp [Fragment.OnlyThunks, Dialect.primaryKey]
  | now mode =>
    obtain rfl := Option.some.inj h
    cases dialect <;> cases mode <;>
      simp [Fragment.OnlyThunks, Dialect.defaultNow, defaultFunction, Fragment.thunk, DateMode.now]
  | onUpdate mode =>
    obtain rfl := Option.some.inj h
    cases mode <;> simp [Fragment.OnlyThunks, Fragment.thunk, DateMode.now]
  | narrow type imports =>
    obtain rfl := Option.some.inj h
    simp [Fragment.OnlyThunks]
  | expression source imports =>
    obtain rfl := Option.some.inj h
    simp [Fragment.OnlyThunks, defaultFunction, Fragment.thunk]
  | array | notNull | unique =>
    obtain rfl := Option.some.inj h
    simp [Fragment.OnlyThunks]

theorem Plain.onlyThunks {modifiers : List Modifier} (h : Plain modifiers) :
    ∀ modifier ∈ modifiers, modifier.OnlyThunks := by
  intro modifier hmodifier
  have hplain := h modifier hmodifier
  cases modifier <;> trivial

end Modifier

theorem Column.onlyThunks_fragment (dialect : Dialect) {column : Column}
    (hbase : column.base.OnlyThunks) (h : ∀ modifier ∈ column.modifiers, modifier.OnlyThunks) :
    (column.fragment dialect).OnlyThunks := by
  intro lambda hlambda
  rw [Column.fragment, Column.link, Fragment.lambdas_foldl_andThen] at hlambda
  rcases List.mem_append.mp hlambda with hlambda | hlambda
  · exact hbase lambda hlambda
  · obtain ⟨link, hlink, hlambda⟩ := List.mem_flatMap.mp hlambda
    obtain ⟨modifier, hmodifier, hlink⟩ := List.mem_filterMap.mp hlink
    exact modifier.onlyThunks_fragment? (h modifier hmodifier) hlink lambda hlambda

namespace Field

theorem constructorCall_onlyThunks {dialect : Dialect} {model : Model} {mode : DateMode}
    {field : Field} {call : Fragment}
    (h : field.constructorCall dialect model mode = .ok call) : call.OnlyThunks := by
  unfold constructorCall at h
  split at h
  · rename_i scalar _
    obtain rfl := Except.ok.inj h
    generalize dialect.constructor mode scalar = constructor
    have hoptions : ∀ options : List (String × OptionValue),
        options.flatMap (fun option => option.2.fragment.lambdas) = [] := by
      intro options
      simp only [List.flatMap_eq_nil_iff]
      rintro ⟨key, value⟩ -
      cases value <;> rfl
    rw [Dialect.construct, Constructor.call, Fragment.OnlyThunks, Fragment.lambdas_withImports]
    split <;> simp [List.flatMap_map, hoptions]
  · split at h
    · obtain rfl := Except.ok.inj h
      simp [Fragment.OnlyThunks]
    · simp at h
  · simp at h
  · simp at h

theorem defaultModifiers_onlyThunks {model : Model} {field : Field} {directives : Directives}
    {mode : DateMode} {modifiers : List Modifier}
    (h : field.defaultModifiers model directives mode = .ok modifiers) :
    ∀ modifier ∈ modifiers, modifier.OnlyThunks := by
  unfold defaultModifiers at h
  split at h
  · obtain rfl := Except.ok.inj h
    simp [Modifier.OnlyThunks]
  · split at h
    case h_5 =>
      obtain ⟨value, hvalue, rfl⟩ := map_eq_ok.mp h
      simpa [Modifier.OnlyThunks] using (isLiteral_literal hvalue).inert.onlyThunks
    all_goals
      obtain rfl := Except.ok.inj h
      simp [Modifier.OnlyThunks]

theorem typeModifiers_onlyThunks (directives : Directives) :
    ∀ modifier ∈ typeModifiers directives, modifier.OnlyThunks := by
  unfold typeModifiers
  split <;> simp [Modifier.OnlyThunks]

theorem column_onlyThunks {dialect : Dialect} {mode : DateMode} {model : Model} {field : Field}
    {column : Column} (h : field.column dialect mode model = .ok column) :
    (column.fragment dialect).OnlyThunks := by
  obtain ⟨directives, call, list, default, -, hcall, hlist, hdefault, rfl⟩ := column_eq_ok.mp h
  refine Column.onlyThunks_fragment dialect (constructorCall_onlyThunks hcall) ?_
  simp only [List.forall_mem_append]
  exact ⟨⟨⟨⟨⟨(listModifiers_plain hlist).onlyThunks, typeModifiers_onlyThunks directives⟩,
    field.keyModifiers_plain.onlyThunks⟩, field.uniqueModifiers_plain.onlyThunks⟩,
    defaultModifiers_onlyThunks hdefault⟩, (field.updateModifiers_plain _).onlyThunks⟩

end Field

end SchemaWriter
