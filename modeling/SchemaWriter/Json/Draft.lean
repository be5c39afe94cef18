import SchemaWriter.Json.Token

namespace SchemaWriter.Json

inductive Draft where
  | cut
  | null
  | bool (value : Bool)
  | number (literal : Numeral)
  | string (content : Option String)
  | array (items : List Draft)
  | object (members : List (Draft × Draft))
  deriving Repr

namespace Draft

mutual

def whole : Draft → Bool
  | .cut => false
  | .array items => wholeItems items
  | .object members => wholeMembers members
  | _ => true

def wholeItems : List Draft → Bool
  | [] => true
  | item :: items => item.whole && wholeItems items

def wholeMembers : List (Draft × Draft) → Bool
  | [] => true
  | (key, value) :: members => key.whole && value.whole && wholeMembers members

end

/-- A value that has been begun: its items or members, the last first, and for an object perhaps a
key that waits for its value. -/
inductive Opened where
  | array (items : List Draft)
  | object (members : List (Draft × Draft))
  | member (members : List (Draft × Draft)) (key : Draft)
  deriving Repr

inductive Due where
  | value
  | itemOrEnd
  | keyOrEnd
  | key
  | colon
  | separator
  deriving DecidableEq, Repr

inductive Reading where
  | open (due : Due) (stack : List Opened)
  | complete (value : Draft)
  | trailing (value : Draft)
  | broken (value : Draft)
  deriving Repr

def Opened.close (child : Draft) : Opened → Draft
  | .array items => .array (child :: items).reverse
  | .object members => .object ((child, .cut) :: members).reverse
  | .member members key => .object ((key, child) :: members).reverse

def breakAt (value : Draft) (stack : List Opened) : Reading :=
  .broken (stack.foldl Opened.close value)

def place (value : Draft) : List Opened → Reading
  | [] => .complete value
  | .array items :: stack => .open .separator (.array (value :: items) :: stack)
  | .member members key :: stack => .open .separator (.object ((key, value) :: members) :: stack)
  | .object members :: stack => .open .colon (.member members value :: stack)

def startValue (stack : List Opened) : Token → Reading
  | .null => place .null stack
  | .bool b => place (.bool b) stack
  | .number n => place (.number n) stack
  | .string s => place (.string s) stack
  | .openBracket => .open .itemOrEnd (.array [] :: stack)
  | .openBrace => .open .keyOrEnd (.object [] :: stack)
  | _ => breakAt .cut stack

def startKey (stack : List Opened) : Token → Reading
  | .string s => place (.string s) stack
  | _ => breakAt .cut stack

def step : Reading → Token → Reading
  | .open .value stack, token => startValue stack token
  | .open .itemOrEnd (.array items :: stack), .closeBracket =>
    place (.array items.reverse) stack
  | .open .itemOrEnd stack, token => startValue stack token
  | .open .keyOrEnd (.object members :: stack), .closeBrace =>
    place (.object members.reverse) stack
  | .open .keyOrEnd stack, token => startKey stack token
  | .open .key stack, token => startKey stack token
  | .open .colon stack, .colon => .open .value stack
  | .open .separator (.array items :: stack), .comma => .open .value (.array items :: stack)
  | .open .separator (.array items :: stack), .closeBracket =>
    place (.array items.reverse) stack
  | .open .separator (.object members :: stack), .comma => .open .key (.object members :: stack)
  | .open .separator (.object members :: stack), .closeBrace =>
    place (.object members.reverse) stack
  | .open _ stack, _ => breakAt .cut stack
  | .complete value, _ => .trailing value
  | reading, _ => reading

def Reading.result : Reading → Draft × Bool
  | .open _ stack => (stack.foldl Opened.close .cut, true)
  | .complete value => (value, true)
  | .trailing value => (value, false)
  | .broken value => (value, true)

def run (tokens : List Token) (reading : Reading) : Reading :=
  tokens.foldl step reading

def ofTokens (tokens : List Token) : Draft × Bool :=
  (run tokens (.open .value [])).result

def ofGlyphs (text : List Glyph) : Draft × Bool :=
  ofTokens (tokens text)

end Draft

end SchemaWriter.Json
