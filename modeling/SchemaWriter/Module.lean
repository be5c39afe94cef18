import SchemaWriter.Fragment.Basic
import SchemaWriter.Naming.Binding
import SchemaWriter.Requirement.Merge

namespace SchemaWriter

structure Module where
  name : String
  declarations : List Fragment
  imports : List Requirement
  resolution : Resolution

namespace Module

def bindings (m : Module) : List String :=
  m.declarations.filterMap Fragment.name?

def importBlock (m : Module) : String :=
  String.join (m.imports.map fun r => r.render m.resolution ++ "\n") ++
    (if m.imports.isEmpty then "" else "\n")

def code (m : Module) : String :=
  m.importBlock ++ "\n\n".intercalate (m.declarations.map Fragment.render) ++ "\n"

def requirements (declarations : List Fragment) : List Requirement :=
  declarations.flatMap Fragment.imports

def assemble (resolution : Resolution) (name : String) (declarations : List Fragment) : Module where
  name := name
  declarations := declarations
  imports := Requirement.merge ((requirements declarations).filter (·.source ≠ .sibling name))
  resolution := resolution

def schemaName : String := "schema"

def schemaDeclaration (entries : List Entry) : Fragment :=
  .declaration schemaName (.object entries) true

def assembleSingle (resolution : Resolution) (name : String) (declarations : List Fragment) :
    Module where
  name := name
  declarations :=
    declarations ++ [schemaDeclaration ((declarations.filterMap Fragment.name?).map .shorthand)]
  imports := Requirement.merge ((requirements declarations).filter (!·.source.isSibling))
  resolution := resolution

def schemaRoot (resolution : Resolution) (modules : List Module) : Module where
  name := schemaName
  declarations :=
    [schemaDeclaration (modules.map fun m => .spread (.verbatim (Naming.moduleAlias m.name)))]
  imports :=
    Requirement.merge (modules.map fun m => .wildcard (Naming.moduleAlias m.name) m.name)
  resolution := resolution

end Module

end SchemaWriter
