import SchemaWriter.Fragment.Basic

namespace SchemaWriter.Fragment

def bare : Fragment → Fragment
  | .requiring _ body => body.bare
  | fragment => fragment

@[simp] theorem bare_withImports (fragment : Fragment) (requirements : List Requirement) :
    (fragment.withImports requirements).bare = fragment.bare := by
  cases fragment <;> rfl

@[simp] theorem bare_invoke (callee : String) (arguments : List Fragment) :
    (invoke callee arguments).bare = .call callee none arguments :=
  rfl

def value? (fragment : Fragment) : Option Fragment :=
  match fragment.bare with
  | .declaration _ value _ => some value
  | _ => none

def call? (fragment : Fragment) : Option (String × List Fragment) :=
  match fragment.bare with
  | .call callee _ arguments => some (callee, arguments)
  | _ => none

@[simp] theorem value?_declaration (name : String) (value : Fragment) (exported : Bool) :
    (declaration name value exported).value? = some value :=
  rfl

@[simp] theorem call?_invoke (callee : String) (arguments : List Fragment) :
    (invoke callee arguments).call? = some (callee, arguments) :=
  rfl

@[simp] theorem call?_withImports (fragment : Fragment) (requirements : List Requirement) :
    (fragment.withImports requirements).call? = fragment.call? := by
  simp [call?]

def properties (fragment : Fragment) : List (String × Fragment) :=
  match fragment.bare with
  | .object entries => entries.filterMap fun
    | .property key value => some (key, value)
    | _ => none
  | _ => []

@[simp] theorem properties_record (properties : List (String × Fragment)) :
    (record properties).properties = properties := by
  induction properties with
  | nil => rfl
  | cons property rest ih =>
    simp only [Fragment.properties, record, bare, List.map_cons, List.filterMap_cons] at ih ⊢
    rw [ih]

def options (fragment : Fragment) : List (String × Fragment) :=
  match fragment.call? with
  | some (_, [_, options]) => options.properties
  | _ => []

mutual

def verbatims : Fragment → List String
  | .verbatim source => [source]
  | .object entries => verbatimsOfEntries entries
  | .array items => verbatimsOfAll items
  | .call _ _ arguments => verbatimsOfAll arguments
  | .chain first links => first.verbatims ++ verbatimsOfAll links
  | .lambda _ body => body.verbatims
  | .declaration _ value _ => value.verbatims
  | .requiring _ body => body.verbatims
  | _ => []

def verbatimsOfAll : List Fragment → List String
  | [] => []
  | fragment :: fragments => fragment.verbatims ++ verbatimsOfAll fragments

def verbatimsOfEntry : Entry → List String
  | .property _ value => value.verbatims
  | .spread value => value.verbatims
  | .shorthand name => [name]

def verbatimsOfEntries : List Entry → List String
  | [] => []
  | entry :: entries => verbatimsOfEntry entry ++ verbatimsOfEntries entries

end

theorem verbatimsOfAll_eq_flatMap (fragments : List Fragment) :
    verbatimsOfAll fragments = fragments.flatMap verbatims := by
  induction fragments with
  | nil => rfl
  | cons fragment fragments ih => simp [verbatimsOfAll, ih]

@[simp] theorem verbatims_string (value : String) : (string value).verbatims = [] :=
  rfl

@[simp] theorem verbatims_verbatim (source : String) : (verbatim source).verbatims = [source] :=
  rfl

@[simp] theorem verbatims_array (items : List Fragment) :
    (array items).verbatims = items.flatMap verbatims :=
  verbatimsOfAll_eq_flatMap items

@[simp] theorem verbatims_invoke (callee : String) (arguments : List Fragment) :
    (invoke callee arguments).verbatims = arguments.flatMap verbatims :=
  verbatimsOfAll_eq_flatMap arguments

@[simp] theorem verbatims_lambda (parameters : List String) (body : Fragment) :
    (lambda parameters body).verbatims = body.verbatims :=
  rfl

@[simp] theorem verbatims_record (properties : List (String × Fragment)) :
    (record properties).verbatims = properties.flatMap (·.2.verbatims) := by
  unfold record
  induction properties with
  | nil => simp [verbatims, verbatimsOfEntries]
  | cons property rest ih =>
    simp only [verbatims, List.map_cons, verbatimsOfEntries, verbatimsOfEntry,
      List.flatMap_cons] at ih ⊢
    rw [ih]

@[simp] theorem verbatims_withImports (fragment : Fragment) (requirements : List Requirement) :
    (fragment.withImports requirements).verbatims = fragment.verbatims := by
  cases fragment <;> simp [withImports, verbatims]

def links (fragment : Fragment) : List Fragment :=
  match fragment.bare with
  | .chain _ links => links
  | _ => []

theorem foldl_andThen_chain (first : Fragment) (links more : List Fragment) :
    more.foldl andThen (chain first links) = chain first (links ++ more) := by
  induction more generalizing links with
  | nil => simp
  | cons link more ih =>
    have step : andThen (chain first links) link = chain first (links ++ [link]) := rfl
    rw [List.foldl_cons, step, ih, List.append_assoc, List.singleton_append]

theorem bare_ne_chain {base : Fragment} (h : base.call?.isSome = true) (first : Fragment)
    (links : List Fragment) : base.bare ≠ chain first links := by
  intro hbare
  simp [call?, hbare] at h

theorem foldl_andThen_cons {base : Fragment} (h : base.call?.isSome = true) (link : Fragment)
    (more : List Fragment) : (link :: more).foldl andThen base = chain base (link :: more) := by
  have hstep : base.andThen link = chain base [link] := by
    unfold andThen
    split
    · exact absurd rfl (bare_ne_chain h _ _)
    · exact absurd rfl (bare_ne_chain h _ _)
    · rfl
  rw [List.foldl_cons, hstep, foldl_andThen_chain, List.singleton_append]

theorem links_foldl_andThen {base : Fragment} (h : base.call?.isSome = true)
    (links : List Fragment) : (links.foldl andThen base).links = links := by
  cases links with
  | nil =>
    rw [List.foldl_nil, Fragment.links]
    split
    · rename_i hchain
      exact absurd hchain (bare_ne_chain h _ _)
    · rfl
  | cons link more =>
    rw [foldl_andThen_cons h]
    rfl

mutual

def strings : Fragment → List String
  | .string value => [value]
  | .object entries => stringsOfEntries entries
  | .array items => stringsOfAll items
  | .call _ _ arguments => stringsOfAll arguments
  | .chain first links => first.strings ++ stringsOfAll links
  | .lambda _ body => body.strings
  | .declaration _ value _ => value.strings
  | .requiring _ body => body.strings
  | _ => []

def stringsOfAll : List Fragment → List String
  | [] => []
  | fragment :: fragments => fragment.strings ++ stringsOfAll fragments

def stringsOfEntry : Entry → List String
  | .property _ value => value.strings
  | .spread value => value.strings
  | .shorthand _ => []

def stringsOfEntries : List Entry → List String
  | [] => []
  | entry :: entries => stringsOfEntry entry ++ stringsOfEntries entries

end

theorem strings_array_map_string (values : List String) :
    (array (values.map string)).strings = values := by
  rw [strings]
  induction values with
  | nil => rfl
  | cons value values ih => rw [List.map_cons, stringsOfAll, strings, ih, List.singleton_append]

end SchemaWriter.Fragment
