import Mathlib.Data.List.TakeWhile
import SchemaWriter.Fragment.Basic

namespace SchemaWriter.Fragment

mutual

@[simp] def parts : Fragment → List Fragment
  | .object entries => .object entries :: partsOfEntries entries
  | .array items => .array items :: partsOfAll items
  | .call callee generic arguments => .call callee generic arguments :: partsOfAll arguments
  | .chain first links => .chain first links :: first.parts ++ partsOfAll links
  | .lambda parameters body => .lambda parameters body :: body.parts
  | .declaration name value exported => .declaration name value exported :: value.parts
  | .requiring requirements body => .requiring requirements body :: body.parts
  | fragment => [fragment]

def partsOfAll : List Fragment → List Fragment
  | [] => []
  | fragment :: fragments => fragment.parts ++ partsOfAll fragments

def partsOfEntry : Entry → List Fragment
  | .property _ value => value.parts
  | .spread value => value.parts
  | .shorthand _ => []

def partsOfEntries : List Entry → List Fragment
  | [] => []
  | entry :: entries => partsOfEntry entry ++ partsOfEntries entries

end

theorem partsOfAll_eq_flatMap (fragments : List Fragment) :
    partsOfAll fragments = fragments.flatMap parts := by
  induction fragments with
  | nil => rfl
  | cons fragment fragments ih => simp [partsOfAll, ih]

theorem partsOfEntries_properties (properties : List (String × Fragment)) :
    partsOfEntries (properties.map fun (key, value) => .property key value) =
      properties.flatMap (·.2.parts) := by
  induction properties with
  | nil => rfl
  | cons property rest ih => simp [partsOfEntries, partsOfEntry, ih]

def ownLambda : Fragment → List (List String × Fragment)
  | .lambda parameters body => [(parameters, body)]
  | _ => []

def lambdas (fragment : Fragment) : List (List String × Fragment) :=
  fragment.parts.flatMap ownLambda

def before (stop : Char) (text : String) : String :=
  String.ofList (text.toList.takeWhile (· ≠ stop))

def ownMention : Fragment → List String
  | .verbatim source => [before '.' source]
  | .call callee _ _ => [callee]
  | _ => []

def mentions (fragment : Fragment) : List String :=
  fragment.parts.flatMap ownMention

@[simp] theorem lambdas_string (value : String) : (string value).lambdas = [] :=
  rfl

@[simp] theorem lambdas_verbatim (source : String) : (verbatim source).lambdas = [] :=
  rfl

@[simp] theorem lambdas_array (items : List Fragment) :
    (array items).lambdas = items.flatMap (·.lambdas) := by
  simp [lambdas, partsOfAll_eq_flatMap, ownLambda, List.flatMap_assoc]

@[simp] theorem lambdas_boolean (value : Bool) : (boolean value).lambdas = [] :=
  rfl

@[simp] theorem lambdas_call (callee : String) (generic : Option String)
    (arguments : List Fragment) :
    (call callee generic arguments).lambdas = arguments.flatMap (·.lambdas) := by
  simp [lambdas, partsOfAll_eq_flatMap, ownLambda, List.flatMap_assoc]

@[simp] theorem lambdas_invoke (callee : String) (arguments : List Fragment) :
    (invoke callee arguments).lambdas = arguments.flatMap (·.lambdas) :=
  lambdas_call callee none arguments

@[simp] theorem lambdas_record (properties : List (String × Fragment)) :
    (record properties).lambdas = properties.flatMap (·.2.lambdas) := by
  simp [record, lambdas, partsOfEntries_properties, ownLambda, List.flatMap_assoc]

@[simp] theorem lambdas_lambda (parameters : List String) (body : Fragment) :
    (lambda parameters body).lambdas = (parameters, body) :: body.lambdas := by
  simp [lambdas, ownLambda]

@[simp] theorem lambdas_declaration (name : String) (value : Fragment) (exported : Bool) :
    (declaration name value exported).lambdas = value.lambdas := by
  simp [lambdas, ownLambda]

@[simp] theorem lambdas_withImports (fragment : Fragment) (requirements : List Requirement) :
    (fragment.withImports requirements).lambdas = fragment.lambdas := by
  cases fragment <;> simp [withImports, lambdas, ownLambda]

theorem lambdas_andThen (fragment link : Fragment) :
    (fragment.andThen link).lambdas = fragment.lambdas ++ link.lambdas := by
  unfold andThen
  split <;> simp [lambdas, partsOfAll_eq_flatMap, ownLambda]

theorem lambdas_foldl_andThen (fragment : Fragment) (links : List Fragment) :
    (links.foldl andThen fragment).lambdas = fragment.lambdas ++ links.flatMap lambdas := by
  induction links generalizing fragment with
  | nil => simp
  | cons link links ih => simp [ih, lambdas_andThen]

@[simp] theorem mentions_string (value : String) : (string value).mentions = [] :=
  rfl

@[simp] theorem mentions_verbatim (source : String) :
    (verbatim source).mentions = [before '.' source] :=
  rfl

@[simp] theorem mentions_array (items : List Fragment) :
    (array items).mentions = items.flatMap (·.mentions) := by
  simp [mentions, partsOfAll_eq_flatMap, ownMention, List.flatMap_assoc]

@[simp] theorem mentions_invoke (callee : String) (arguments : List Fragment) :
    (invoke callee arguments).mentions = callee :: arguments.flatMap (·.mentions) := by
  simp [invoke, mentions, partsOfAll_eq_flatMap, ownMention, List.flatMap_assoc]

@[simp] theorem mentions_record (properties : List (String × Fragment)) :
    (record properties).mentions = properties.flatMap (·.2.mentions) := by
  simp [record, mentions, partsOfEntries_properties, ownMention, List.flatMap_assoc]

@[simp] theorem mentions_withImports (fragment : Fragment) (requirements : List Requirement) :
    (fragment.withImports requirements).mentions = fragment.mentions := by
  cases fragment <;> simp [withImports, mentions, ownMention]

theorem before_eq_self {stop : Char} {text : String} (h : stop ∉ text.toList) :
    before stop text = text := by
  have hall : text.toList.takeWhile (· ≠ stop) = text.toList := by
    rw [List.takeWhile_eq_self_iff]
    intro c hc
    simpa using fun heq : c = stop => h (heq ▸ hc)
  rw [before, hall, String.ofList_toList]

theorem before_append {stop : Char} {front : String} (h : stop ∉ front.toList) {back : List Char}
    {text : String} (htext : text.toList = front.toList ++ stop :: back) :
    before stop text = front := by
  have hfront : ∀ c ∈ front.toList, decide (c ≠ stop) = true := by
    intro c hc
    simpa using fun heq : c = stop => h (heq ▸ hc)
  rw [before, htext, List.takeWhile_append_of_pos hfront, List.takeWhile_cons_of_neg (by simp),
    List.append_nil, String.ofList_toList]

end SchemaWriter.Fragment
