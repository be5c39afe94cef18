import SchemaWriter.Column.Modifier
import SchemaWriter.Proofs.Fragment.Shape

namespace SchemaWriter.Fragment

@[simp] theorem render_string (value : String) : (string value).render = Literal.quote value :=
  rfl

@[simp] theorem render_verbatim (source : String) : (verbatim source).render = source :=
  rfl

@[simp] theorem render_withImports (fragment : Fragment) (requirements : List Requirement) :
    (fragment.withImports requirements).render = fragment.render := by
  cases fragment <;> rfl

@[simp] theorem render_invoke (callee : String) (arguments : List Fragment) :
    (invoke callee arguments).render =
      callee ++ "(" ++ ", ".intercalate (arguments.map render) ++ ")" := by
  calc
    (invoke callee arguments).render
    _ = callee ++ "" ++ "(" ++ ", ".intercalate (renderAll arguments) ++ ")" := rfl
    _ = callee ++ "(" ++ ", ".intercalate (arguments.map render) ++ ")" := by
      rw [String.append_empty, renderAll_eq_map]

@[simp] theorem render_thunk (body : Fragment) :
    (thunk body).render = "() => \x7b return " ++ body.render ++ "; \x7d" := by
  change "(" ++ ", ".intercalate [] ++ ") => \x7b return " ++ body.render ++ "; \x7d" = _
  rw [String.intercalate_nil]
  rfl

theorem renderEntries_eq_map (entries : List Entry) :
    renderEntries entries = entries.map renderEntry := by
  induction entries with
  | nil => rfl
  | cons entry entries ih => exact congrArg (renderEntry entry :: ·) ih

theorem render_array {items : List Fragment} (h : items ≠ []) :
    (array items).render = "[ " ++ ", ".intercalate (items.map render) ++ " ]" := by
  obtain ⟨item, items, rfl⟩ := List.exists_cons_of_ne_nil h
  rw [List.map_cons, ← renderAll_eq_map]
  rfl

theorem render_record {properties : List (String × Fragment)} (h : properties ≠ []) :
    (record properties).render = "\x7b " ++
      ", ".intercalate (properties.map fun property => property.1 ++ ": " ++ property.2.render) ++
      " \x7d" := by
  obtain ⟨property, properties, rfl⟩ := List.exists_cons_of_ne_nil h
  have hentries := renderEntries_eq_map <|
    properties.map fun property => .property property.1 property.2
  rw [List.map_map] at hentries
  rw [List.map_cons]
  exact congrArg (fun rest => "\x7b " ++ ", ".intercalate (_ :: rest) ++ " \x7d") hentries

theorem render_defaultFunction (value : Fragment) : (defaultFunction value).render =
    "$defaultFn(() => \x7b return " ++ value.render ++ "; \x7d)" := by
  rw [← String.toList_inj]
  simp [defaultFunction]

theorem render_foldl_andThen {base : Fragment} (h : base.call?.isSome = true)
    (links : List Fragment) :
    (links.foldl andThen base).render = ".".intercalate (base.render :: links.map render) := by
  cases links with
  | nil => simp
  | cons link links =>
    rw [foldl_andThen_cons h, ← renderAll_eq_map]
    rfl

end SchemaWriter.Fragment
