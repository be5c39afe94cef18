import SchemaWriter.Binary64
import SchemaWriter.Requirement.Basic

namespace SchemaWriter

namespace Literal

def escapeChar : Char → List Char
  | '\\' => ['\\', '\\']
  | '\'' => ['\\', '\'']
  | '\n' => ['\\', 'n']
  | '\r' => ['\\', 'r']
  | c => [c]

def quoteChars (cs : List Char) : List Char :=
  '\'' :: cs.flatMap escapeChar ++ ['\'']

def quote (s : String) : String :=
  String.ofList (quoteChars s.toList)

end Literal

mutual

/-- A `verbatim` fragment is a binding or an expression as it stands; `requiring` adds imports to a
fragment and shows nothing itself. -/
inductive Fragment where
  | string (value : String)
  | integer (value : Int)
  | float (value : Binary64)
  | boolean (value : Bool)
  | verbatim (source : String)
  | object (entries : List Entry)
  | array (items : List Fragment)
  | call (callee : String) (generic : Option String) (arguments : List Fragment)
  | chain (first : Fragment) (links : List Fragment)
  | lambda (parameters : List String) (body : Fragment)
  | declaration (name : String) (value : Fragment) (exported : Bool)
  | requiring (requirements : List Requirement) (body : Fragment)

inductive Entry where
  | property (key : String) (value : Fragment)
  | spread (value : Fragment)
  | shorthand (name : String)

end

namespace Fragment

mutual

def render : Fragment → String
  | .string value => Literal.quote value
  | .integer value => toString value
  | .float value => value.render .code
  | .boolean value => if value then "true" else "false"
  | .verbatim source => source
  | .object [] => "\x7b\x7d"
  | .object (entry :: entries) =>
    "\x7b " ++ ", ".intercalate (renderEntry entry :: renderEntries entries) ++ " \x7d"
  | .array [] => "[]"
  | .array (item :: items) => "[ " ++ ", ".intercalate (item.render :: renderAll items) ++ " ]"
  | .call callee generic arguments =>
    callee ++ (match generic with | some type => "<" ++ type ++ ">" | none => "") ++
      "(" ++ ", ".intercalate (renderAll arguments) ++ ")"
  | .chain first links => ".".intercalate (first.render :: renderAll links)
  | .lambda parameters body =>
    "(" ++ ", ".intercalate parameters ++ ") => \x7b return " ++ body.render ++ "; \x7d"
  | .declaration name value exported =>
    (if exported then "export " else "") ++ "const " ++ name ++ " = " ++ value.render ++ ";"
  | .requiring _ body => body.render

def renderAll : List Fragment → List String
  | [] => []
  | fragment :: fragments => fragment.render :: renderAll fragments

def renderEntry : Entry → String
  | .property key value => key ++ ": " ++ value.render
  | .spread value => "..." ++ value.render
  | .shorthand name => name

def renderEntries : List Entry → List String
  | [] => []
  | entry :: entries => renderEntry entry :: renderEntries entries

end

mutual

def imports : Fragment → List Requirement
  | .object entries => importsOfEntries entries
  | .array items => importsOfAll items
  | .call _ _ arguments => importsOfAll arguments
  | .chain first links => first.imports ++ importsOfAll links
  | .lambda _ body => body.imports
  | .declaration _ value _ => value.imports
  | .requiring requirements body => requirements ++ body.imports
  | _ => []

def importsOfAll : List Fragment → List Requirement
  | [] => []
  | fragment :: fragments => fragment.imports ++ importsOfAll fragments

def importsOfEntry : Entry → List Requirement
  | .property _ value => value.imports
  | .spread value => value.imports
  | .shorthand _ => []

def importsOfEntries : List Entry → List Requirement
  | [] => []
  | entry :: entries => importsOfEntry entry ++ importsOfEntries entries

end

theorem renderAll_eq_map (fragments : List Fragment) :
    renderAll fragments = fragments.map render := by
  induction fragments with
  | nil => rfl
  | cons fragment fragments ih => simp [renderAll, ih]

theorem importsOfAll_eq_flatMap (fragments : List Fragment) :
    importsOfAll fragments = fragments.flatMap imports := by
  induction fragments with
  | nil => rfl
  | cons fragment fragments ih => simp [importsOfAll, ih]

def name? : Fragment → Option String
  | .declaration name _ _ => some name
  | .requiring _ body => body.name?
  | _ => none

def record (properties : List (String × Fragment)) : Fragment :=
  .object (properties.map fun (key, value) => .property key value)

def invoke (callee : String) (arguments : List Fragment) : Fragment :=
  .call callee none arguments

def importStatement (resolution : Resolution) (r : Requirement) : Fragment :=
  .verbatim (r.render resolution)

def thunk (body : Fragment) : Fragment :=
  .lambda [] body

def withImports (requirements : List Requirement) : Fragment → Fragment
  | .requiring first body => .requiring (first ++ requirements) body
  | fragment => .requiring requirements fragment

def andThen (fragment link : Fragment) : Fragment :=
  match fragment with
  | .chain first links => .chain first (links ++ [link])
  | .requiring requirements (.chain first links) =>
    .requiring requirements (.chain first (links ++ [link]))
  | fragment => .chain fragment [link]

end Fragment

end SchemaWriter
