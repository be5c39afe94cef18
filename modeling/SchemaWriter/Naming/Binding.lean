import SchemaWriter.Naming.Words
import SchemaWriter.Text.CaseMap

namespace SchemaWriter.Naming

open SchemaWriter.Text

inductive PluralEnding where
  | already
  | es
  | ies
  | s
  deriving DecidableEq, Repr

/-- The ending that a word asks for; the word is given in lower case, last letter first. A final `s`
is a plural unless it closes `ss`, `us` or `is`. -/
def PluralEnding.ofReversed : List Char → PluralEnding
  | 's' :: 's' :: _ => .es
  | 's' :: 'u' :: _ => .es
  | 's' :: 'i' :: _ => .es
  | 's' :: _ => .already
  | 'x' :: _ => .es
  | 'z' :: _ => .es
  | 'h' :: 'c' :: _ => .es
  | 'h' :: 's' :: _ => .es
  | 'y' :: c :: _ => if c ∈ ['a', 'e', 'i', 'o', 'u'] then .s else .ies
  | _ => .s

def PluralEnding.of (word : List Char) : PluralEnding :=
  ofReversed (word.flatMap lowerChar).reverse

def pluralize (word : List Char) : List Char :=
  match PluralEnding.of word with
  | .already => word
  | .es => word ++ ['e', 's']
  | .ies => word.dropLast ++ ['i', 'e', 's']
  | .s => word ++ ['s']

def onChars (f : List Char → List Char) (name : String) : String :=
  String.ofList (f name.toList)

def plural : String → String :=
  onChars pluralize

def tableBinding : String → String :=
  onChars fun name => pluralize (lowerCamel name)

def tableModule (model : String) : String :=
  onChars kebab (tableBinding model)

def relationsBinding (model : String) : String :=
  tableBinding model ++ "Relations"

def relationsModule (model : String) : String :=
  tableModule model ++ "-relations"

def enumBinding (name : String) : String :=
  onChars lowerCamel name ++ "Enum"

def enumModule (name : String) : String :=
  onChars kebab name ++ "-enum"

def moduleAlias : String → String :=
  onChars lowerCamel

def modelField : String → String :=
  onChars lowerCamel

def isIdentifierStart (c : Char) : Bool :=
  c.isAlpha || c = '_' || c = '$'

def isIdentifierPart (c : Char) : Bool :=
  c.isAlphanum || c = '_' || c = '$'

def isIdentifier (name : String) : Bool :=
  match name.toList with
  | [] => false
  | c :: cs => isIdentifierStart c && cs.all isIdentifierPart

end SchemaWriter.Naming
