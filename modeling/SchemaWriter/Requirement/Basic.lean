namespace SchemaWriter

inductive Resolution where
  | bundler
  | nodeNext
  deriving DecidableEq, Repr

inductive Specifier where
  | package (path : String)
  | sibling (name : String)
  deriving DecidableEq, Repr

def Specifier.path (resolution : Resolution) : Specifier → String
  | .package path => path
  | .sibling name => match resolution with
    | .bundler => "./" ++ name
    | .nodeNext => "./" ++ name ++ ".js"

def Specifier.isSibling : Specifier → Bool
  | .package _ => false
  | .sibling _ => true

inductive Clause where
  | named (names : List String)
  | whole (name : String)
  | wildcard (name : String)
  deriving DecidableEq, Repr

def Clause.render : Clause → String
  | .named names => "\x7b " ++ ", ".intercalate names ++ " \x7d"
  | .whole name => name
  | .wildcard name => "* as " ++ name

def Clause.bindings : Clause → List String
  | .named names => names
  | .whole name => [name]
  | .wildcard name => [name]

structure Requirement where
  clause : Clause
  source : Specifier
  deriving DecidableEq, Repr

namespace Requirement

def named (names : List String) (package : String) : Requirement :=
  ⟨.named names, .package package⟩

def sibling (name module : String) : Requirement :=
  ⟨.named [name], .sibling module⟩

def wildcard (name module : String) : Requirement :=
  ⟨.wildcard name, .sibling module⟩

def render (resolution : Resolution) (r : Requirement) : String :=
  "import " ++ r.clause.render ++ " from '" ++ r.source.path resolution ++ "';"

end Requirement

end SchemaWriter
