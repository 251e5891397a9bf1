import ClientSynth.Code.Render
import ClientSynth.CommandLine
import ClientSynth.Contract
import ClientSynth.Contract.Resolution
import ClientSynth.Declaration.Reading
import ClientSynth.Declaration.Text
import ClientSynth.Files.Tree
import ClientSynth.Hook.Run
import ClientSynth.Json.Pretty
import ClientSynth.Json.Render
import ClientSynth.Json.Text
import ClientSynth.Layer
import ClientSynth.Main
import ClientSynth.Naming
import ClientSynth.Number.Numeral
import ClientSynth.Output
import ClientSynth.Settings.File
import ClientSynth.Template.Kind
import ClientSynth.Template.Set
import ClientSynth.Text.Escape
import ClientSynth.Toml.Render
import ClientSynth.Toml.Text
import ClientSynth.Url
import ClientSynth.Yaml.Node
import ClientSynth.Yaml.Render
import ClientSynth.Yaml.Scalar
import ClientSynth.Yaml.Token
import ClientSynth.Proofs.DeclaredType
import ClientSynth.Proofs.Role
import ClientSynth.Proofs.Trim
import ClientSynth.Proofs.InheritedMethod
import ClientSynth.Proofs.WellFormed
import ClientSynth.Proofs.Lineage
import ClientSynth.Proofs.FormatText
import ClientSynth.Proofs.Placeholder
import ClientSynth.Proofs.Path
import ClientSynth.Proofs.Value
import ClientSynth.Proofs.Evaluation
import ClientSynth.Proofs.Locals
import ClientSynth.Proofs.Binding
import ClientSynth.Proofs.Query
import ClientSynth.Proofs.Builder
import ClientSynth.Proofs.Occurrence
import ClientSynth.Proofs.Merge
import ClientSynth.Proofs.DeclarationIndex
import ClientSynth.Proofs.Preorder
import ClientSynth.Proofs.Output
import ClientSynth.Proofs.Emission
import ClientSynth.Proofs.Schedule
import ClientSynth.Proofs.Words
import ClientSynth.Proofs.UnitName
import ClientSynth.Proofs.FirstCome
import ClientSynth.Proofs.Trace
import ClientSynth.Proofs.Quiet
import ClientSynth.Proofs.Preparation
import ClientSynth.Proofs.RequestRun
import ClientSynth.Proofs.Course
import ClientSynth.Proofs.RequestStatement
import ClientSynth.Proofs.Shadowing
import ClientSynth.Proofs.Forwarding
import ClientSynth.Proofs.Closed
import ClientSynth.Proofs.ClosedBody
import ClientSynth.Proofs.SnakeCase
import ClientSynth.Proofs.HookName
import ClientSynth.Proofs.Spelling
import ClientSynth.Proofs.Signature
import ClientSynth.Proofs.ManualCall
import ClientSynth.Proofs.Expansion
import ClientSynth.Proofs.VariantClash
import ClientSynth.Proofs.Locality
import ClientSynth.Proofs.Accounting
import ClientSynth.Proofs.Registration
import ClientSynth.Proofs.EntryName
import ClientSynth.Proofs.ModuleName
import ClientSynth.Proofs.Acceptance
import ClientSynth.Proofs.Report
import ClientSynth.Proofs.Overload
import ClientSynth.Proofs.DeclaredSignature
import ClientSynth.Proofs.RoleAnnotation
import ClientSynth.Proofs.CommentLine
import ClientSynth.Proofs.Escape
import ClientSynth.Proofs.Writing
import ClientSynth.Proofs.Documentation
import ClientSynth.Proofs.Numeral
import ClientSynth.Proofs.Unescape
import ClientSynth.Proofs.TypeNotation
import ClientSynth.Proofs.EnumerationDefault
import ClientSynth.Proofs.NumberLiteral
import ClientSynth.Proofs.NumericDefault
import ClientSynth.Proofs.ContentType
import ClientSynth.Proofs.ByteCut
import ClientSynth.Proofs.PlaceholderSpan
import ClientSynth.Proofs.PathSpan
import ClientSynth.Proofs.SnakeForm
import ClientSynth.Proofs.IdentifierForm
import ClientSynth.Proofs.CodeReading
import ClientSynth.Proofs.FreeName
import ClientSynth.Proofs.EmissionRun
import ClientSynth.Proofs.EdgeUnderscore
import ClientSynth.Proofs.StrictWriting
import ClientSynth.Proofs.Indentation
import ClientSynth.Proofs.BlockLevel
