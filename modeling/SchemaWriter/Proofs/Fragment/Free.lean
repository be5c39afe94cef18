import SchemaWriter.Proofs.Fragment.Parts
import SchemaWriter.Proofs.Fragment.Shape

namespace SchemaWriter.Fragment

def isSeparator (c : Char) : Bool :=
  c = '.' || c = '('

def withoutNew (source : List Char) : List Char :=
  if "new ".toList.isPrefixOf source then source.drop 4 else source

def root (source : String) : String :=
  String.ofList ((withoutNew source.toList).takeWhile (!isSeparator ·))

def freeOfSource (source : String) : List String :=
  if root source = "null" then [] else [root source]

mutual

/-- The free identifiers of a fragment. The parameters of a lambda are bound in it, and the links of
a chain are members of what stands before them. -/
def free : Fragment → List String
  | .verbatim source => freeOfSource source
  | .object entries => freeOfEntries entries
  | .array items => freeOfAll items
  | .call callee _ arguments => before '.' callee :: freeOfAll arguments
  | .chain first links => first.free ++ freeOfLinks links
  | .lambda parameters body => body.free.filter (· ∉ parameters)
  | .declaration name value _ => value.free.filter (· ≠ name)
  | .requiring _ body => body.free
  | _ => []

def freeOfAll : List Fragment → List String
  | [] => []
  | fragment :: fragments => fragment.free ++ freeOfAll fragments

def freeOfLink : Fragment → List String
  | .call _ _ arguments => freeOfAll arguments
  | .requiring _ body => freeOfLink body
  | _ => []

def freeOfLinks : List Fragment → List String
  | [] => []
  | link :: links => freeOfLink link ++ freeOfLinks links

def freeOfEntry : Entry → List String
  | .property _ value => value.free
  | .spread value => value.free
  | .shorthand name => [name]

def freeOfEntries : List Entry → List String
  | [] => []
  | entry :: entries => freeOfEntry entry ++ freeOfEntries entries

end

theorem freeOfAll_eq_flatMap (fragments : List Fragment) :
    freeOfAll fragments = fragments.flatMap free := by
  induction fragments with
  | nil => rfl
  | cons fragment fragments ih => simp [freeOfAll, ih]

theorem freeOfLinks_eq_flatMap (links : List Fragment) :
    freeOfLinks links = links.flatMap freeOfLink := by
  induction links with
  | nil => rfl
  | cons link links ih => simp [freeOfLinks, ih]

theorem freeOfEntries_properties (properties : List (String × Fragment)) :
    freeOfEntries (properties.map fun (key, value) => .property key value) =
      properties.flatMap (·.2.free) := by
  induction properties with
  | nil => rfl
  | cons property rest ih => simp [freeOfEntries, freeOfEntry, ih]

@[simp] theorem free_string (value : String) : (string value).free = [] :=
  rfl

@[simp] theorem free_verbatim (source : String) : (verbatim source).free = freeOfSource source :=
  rfl

@[simp] theorem free_array (items : List Fragment) : (array items).free = items.flatMap free :=
  freeOfAll_eq_flatMap items

@[simp] theorem free_invoke (callee : String) (arguments : List Fragment) :
    (invoke callee arguments).free = before '.' callee :: arguments.flatMap free := by
  rw [invoke, free, freeOfAll_eq_flatMap]

@[simp] theorem free_record (properties : List (String × Fragment)) :
    (record properties).free = properties.flatMap (·.2.free) :=
  freeOfEntries_properties properties

@[simp] theorem free_lambda (parameters : List String) (body : Fragment) :
    (lambda parameters body).free = body.free.filter (· ∉ parameters) :=
  rfl

@[simp] theorem free_declaration (name : String) (value : Fragment) (exported : Bool) :
    (declaration name value exported).free = value.free.filter (· ≠ name) :=
  rfl

@[simp] theorem free_withImports (fragment : Fragment) (requirements : List Requirement) :
    (fragment.withImports requirements).free = fragment.free := by
  cases fragment <;> rfl

@[simp] theorem freeOfLink_invoke (callee : String) (arguments : List Fragment) :
    freeOfLink (invoke callee arguments) = arguments.flatMap free :=
  freeOfAll_eq_flatMap arguments

theorem free_andThen (fragment link : Fragment) :
    (fragment.andThen link).free = fragment.free ++ freeOfLink link := by
  unfold andThen
  split <;> simp [free, freeOfLinks_eq_flatMap]

theorem free_foldl_andThen (fragment : Fragment) (links : List Fragment) :
    (links.foldl andThen fragment).free = fragment.free ++ links.flatMap freeOfLink := by
  induction links generalizing fragment with
  | nil => simp
  | cons link links ih => simp [ih, free_andThen]

theorem verbatims_andThen (fragment link : Fragment) :
    (fragment.andThen link).verbatims = fragment.verbatims ++ link.verbatims := by
  unfold andThen
  split <;> simp [verbatims, verbatimsOfAll_eq_flatMap]

theorem verbatims_foldl_andThen (fragment : Fragment) (links : List Fragment) :
    (links.foldl andThen fragment).verbatims = fragment.verbatims ++ links.flatMap verbatims := by
  induction links generalizing fragment with
  | nil => simp
  | cons link links ih => simp [ih, verbatims_andThen]

theorem root_member (name : String) : root ("table." ++ name) = "table" := by
  simp [root, withoutNew, isSeparator]

theorem root_date (arguments : String) : root ("new Date(" ++ arguments) = "Date" := by
  simp [root, withoutNew, isSeparator]

theorem root_bytes (arguments : String) : root ("Buffer.from(" ++ arguments) = "Buffer" := by
  simp [root, withoutNew, isSeparator]

end SchemaWriter.Fragment
