import SchemaWriter.Datamodel.Printer
import SchemaWriter.Main
import SchemaWriter.Proofs.Column.InsertDefaults
import SchemaWriter.Proofs.Module.Blame
import SchemaWriter.Proofs.Module.BoundOnce
import SchemaWriter.Proofs.Module.Capture
import SchemaWriter.Proofs.Module.DeclaredFirst
import SchemaWriter.Proofs.Module.Failures
import SchemaWriter.Proofs.Module.Gathered
import SchemaWriter.Proofs.Module.Layout
import SchemaWriter.Proofs.Module.Rearranged
import SchemaWriter.Proofs.Module.TableImports
import SchemaWriter.Proofs.Relation.Leftover
import SchemaWriter.Proofs.Relation.Pairing
import SchemaWriter.Proofs.Relation.Rearranged
import SchemaWriter.Proofs.Relation.Settled
import SchemaWriter.Proofs.Schema.Accepted
import SchemaWriter.Proofs.Schema.EnumDefaults
import SchemaWriter.Proofs.Schema.RelationNames
import SchemaWriter.Proofs.Schema.WellRelated
import SchemaWriter.Proofs.Module.NameKinds
import SchemaWriter.Proofs.Fragment.Attached
import SchemaWriter.Proofs.Module.Assembled
import SchemaWriter.Proofs.Json.Lexed
import SchemaWriter.Proofs.Json.Depth
import SchemaWriter.Proofs.Json.Integers
import SchemaWriter.Proofs.Json.Spelling
import SchemaWriter.Proofs.Json.Printed
import SchemaWriter.Proofs.Json.Sorted
import SchemaWriter.Proofs.Json.Reread
import SchemaWriter.Proofs.Datamodel.RoundTrip
import SchemaWriter.Proofs.Json.Encoded
import SchemaWriter.Proofs.Command.SameFiles
import SchemaWriter.Proofs.Directive.LineLocal
import SchemaWriter.Proofs.Directive.ShortForm
import SchemaWriter.Proofs.Directive.BlankCode
import SchemaWriter.Proofs.Module.Identifiers
import SchemaWriter.Proofs.Requirement.FirstSeen
import SchemaWriter.Proofs.Column.Moments
import SchemaWriter.Proofs.Column.LiteralDefaults
import SchemaWriter.Proofs.Requirement.Regrouped
import SchemaWriter.Proofs.Naming.AliasBinding
import SchemaWriter.Proofs.Directive.ModulePaths
import SchemaWriter.Proofs.Schema.JoinKeys
import SchemaWriter.Proofs.Module.OutputSuffix
import SchemaWriter.Proofs.Fragment.StringLiteral
import SchemaWriter.Proofs.Fragment.Chained
