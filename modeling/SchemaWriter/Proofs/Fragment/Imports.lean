import SchemaWriter.Column.Basic
import SchemaWriter.Proofs.Fragment.Parts
import SchemaWriter.Proofs.Outcome

namespace SchemaWriter

open Outcome

namespace Fragment

theorem importsOfEntries_eq_flatMap (entries : List Entry) :
    importsOfEntries entries = entries.flatMap importsOfEntry := by
  induction entries with
  | nil => rfl
  | cons entry entries ih => exact congrArg (importsOfEntry entry ++ ·) ih

@[simp] theorem imports_string (value : String) : (string value).imports = [] :=
  rfl

@[simp] theorem imports_verbatim (source : String) : (verbatim source).imports = [] :=
  rfl

@[simp] theorem imports_lambda (parameters : List String) (body : Fragment) :
    (lambda parameters body).imports = body.imports :=
  rfl

@[simp] theorem imports_declaration (name : String) (value : Fragment) (exported : Bool) :
    (declaration name value exported).imports = value.imports :=
  rfl

@[simp] theorem imports_array (items : List Fragment) :
    (array items).imports = items.flatMap imports :=
  importsOfAll_eq_flatMap items

@[simp] theorem imports_invoke (callee : String) (arguments : List Fragment) :
    (invoke callee arguments).imports = arguments.flatMap imports :=
  importsOfAll_eq_flatMap arguments

@[simp] theorem imports_record (properties : List (String × Fragment)) :
    (record properties).imports = properties.flatMap (·.2.imports) :=
  (importsOfEntries_eq_flatMap _).trans (List.flatMap_map _ _ _)

@[simp] theorem imports_invoke_withImports (requirements : List Requirement) (callee : String)
    (arguments : List Fragment) :
    ((invoke callee arguments).withImports requirements).imports =
      requirements ++ arguments.flatMap imports := by
  rw [← imports_invoke callee]
  rfl

theorem imports_andThen (fragment link : Fragment) :
    (fragment.andThen link).imports = fragment.imports ++ link.imports := by
  unfold andThen
  split <;> simp [imports, importsOfAll_eq_flatMap]

theorem imports_foldl_andThen (fragment : Fragment) (links : List Fragment) :
    (links.foldl andThen fragment).imports = fragment.imports ++ links.flatMap imports := by
  induction links generalizing fragment with
  | nil => simp
  | cons link links ih => simp [ih, imports_andThen]

end Fragment

def Modifier.requirements : Modifier → List Requirement
  | .narrow _ imports => imports
  | .expression _ imports => imports
  | .literal value => value.imports
  | _ => []

theorem Modifier.imports_fragment? {dialect : Dialect} {modifier : Modifier} {link : Fragment}
    (h : modifier.fragment? dialect = some link) : link.imports = modifier.requirements := by
  cases modifier with
  | narrow type imports =>
    obtain rfl := Option.some.inj h
    simp [requirements, Fragment.withImports, Fragment.imports, Fragment.importsOfAll]
  | expression source imports =>
    obtain rfl := Option.some.inj h
    simp [requirements, Fragment.withImports, defaultFunction, Fragment.thunk, Fragment.invoke,
      Fragment.imports, Fragment.importsOfAll]
  | literal value =>
    obtain rfl := Option.some.inj h
    simp [requirements]
  | primaryKey numbered =>
    obtain rfl := Option.some.inj h
    cases dialect <;> cases numbered <;> simp [requirements, Dialect.primaryKey, Fragment.imports]
  | now mode =>
    obtain rfl := Option.some.inj h
    cases dialect <;> cases mode <;> rfl
  | autoincrement =>
    obtain ⟨name, -, rfl⟩ := Option.map_eq_some_iff.mp h
    rfl
  | onUpdate mode =>
    obtain rfl := Option.some.inj h
    cases mode <;> rfl
  | array | notNull | unique =>
    obtain rfl := Option.some.inj h
    rfl

theorem Modifier.requirements_eq_nil {dialect : Dialect} {modifier : Modifier}
    (h : modifier.fragment? dialect = none) : modifier.requirements = [] := by
  cases modifier with
  | autoincrement => rfl
  | _ => simp [Modifier.fragment?] at h

def Modifier.isPlain : Modifier → Bool
  | .narrow _ _ => false
  | .expression _ _ => false
  | .literal _ => false
  | _ => true

def Modifier.Plain (modifiers : List Modifier) : Prop :=
  ∀ modifier ∈ modifiers, modifier.isPlain = true

theorem Modifier.Plain.requirements {modifiers : List Modifier} (h : Plain modifiers) :
    modifiers.flatMap Modifier.requirements = [] := by
  rw [List.flatMap_eq_nil_iff]
  intro modifier hmodifier
  have hplain := h modifier hmodifier
  cases modifier <;> first | rfl | cases hplain

theorem Column.imports_fragment (dialect : Dialect) (column : Column) :
    (column.fragment dialect).imports =
      column.base.imports ++ column.modifiers.flatMap Modifier.requirements := by
  rw [Column.fragment, Column.link, Fragment.imports_foldl_andThen]
  congr 1
  induction column.modifiers with
  | nil => rfl
  | cons modifier modifiers ih =>
    cases hlink : modifier.fragment? dialect with
    | none => simp [hlink, ih, Modifier.requirements_eq_nil hlink]
    | some link => simp [hlink, ih, Modifier.imports_fragment? hlink]

end SchemaWriter
