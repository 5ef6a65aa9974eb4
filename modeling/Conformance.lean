import Conformance.Assoc
import Conformance.Binary64.Basic
import Conformance.Binary64.Shortest
import Conformance.Binary64.Text
import Conformance.CommandLine.Arguments
import Conformance.CommandLine.Program
import Conformance.Error
import Conformance.Feature.Basic
import Conformance.Feature.Grammar
import Conformance.Feature.Parse
import Conformance.Feature.Payload
import Conformance.Files.Name
import Conformance.Files.Search
import Conformance.Files.System
import Conformance.Fixture.Host
import Conformance.Fixture.Recipe
import Conformance.Fixture.Stage
import Conformance.Fixture.Tree
import Conformance.Host
import Conformance.Main
import Conformance.Proofs.Action
import Conformance.Report.Console
import Conformance.Report.Event
import Conformance.Run.All
import Conformance.Run.Execute
import Conformance.Run.Session
import Conformance.Scope.Assign
import Conformance.Scope.Basic
import Conformance.Scope.Dereference
import Conformance.Scope.Path
import Conformance.Settings.Basic
import Conformance.Settings.Document
import Conformance.Specification.Basic
import Conformance.Specification.Load
import Conformance.Text.Blank
import Conformance.Text.Decimal
import Conformance.Text.LowerCase
import Conformance.Text.Quoted
import Conformance.Text.Range
import Conformance.Text.WordChar
import Conformance.Value.Basic
import Conformance.Value.Equality
import Conformance.Value.OfNode
import Conformance.Value.Render
import Conformance.Yaml.Cell
import Conformance.Yaml.Fault
import Conformance.Yaml.Node.Basic
import Conformance.Yaml.Node.OfTree
import Conformance.Yaml.Node.Scalar
import Conformance.Yaml.Stream
import Conformance.Yaml.Token.Basic
import Conformance.Yaml.Token.Lexer
import Conformance.Yaml.Token.Tag
import Conformance.Yaml.Token.Text
import Conformance.Yaml.Tree.Basic
import Conformance.Yaml.Tree.OfTokens
import Conformance.Proofs.Run.Attempt
import Conformance.Proofs.Run.Course
import Conformance.Proofs.Run.Events
import Conformance.Proofs.Run.Raised
import Conformance.Proofs.Scope.FailedAssign
import Conformance.Proofs.Scope.ReadBack
import Conformance.Proofs.Scope.PlainData
import Conformance.Proofs.Value.Position
import Conformance.Proofs.Value.Equality
import Conformance.Proofs.Value.SortedForm
import Conformance.Proofs.Json.Token
import Conformance.Proofs.Json.Reader
import Conformance.Proofs.Scope.Dereferenced
import Conformance.Proofs.Scope.Substitution
import Conformance.Proofs.Feature.LeadingTags
import Conformance.Proofs.Run.Visibility
import Conformance.Proofs.Run.Calling
import Conformance.Proofs.Run.Refusal
import Conformance.Proofs.Files.Found
import Conformance.Proofs.Run.ExitFirst
import Conformance.Proofs.Scope.Agreement
import Conformance.Proofs.Run.Independence
import Conformance.Proofs.Specification.SkipState
import Conformance.Proofs.Specification.OtherRuntimes
import Conformance.Proofs.Files.DefaultSearch
import Conformance.Proofs.Run.SkippedTests
import Conformance.Proofs.Text.Pattern
import Conformance.Proofs.Text.Trimming
import Conformance.Proofs.Feature.EntryPatterns
import Conformance.Proofs.Feature.Comments
import Conformance.Proofs.Feature.LeftSides
import Conformance.Proofs.Feature.FirstLine
import Conformance.Proofs.Run.Judgement
import Conformance.Proofs.Value.Layers
import Conformance.Proofs.Value.Symmetry
import Conformance.Proofs.Value.Transitivity
import Conformance.Proofs.Text.Octets
import Conformance.Proofs.Specification.Serial
import Conformance.Proofs.Files.Name
import Conformance.Proofs.Files.Directory
import Conformance.Proofs.Specification.Hooks
import Conformance.Proofs.Assoc
import Conformance.Proofs.Text.LowerCase
import Conformance.Proofs.Package.Merging
import Conformance.Proofs.Package.LetterCase
import Conformance.Proofs.Value.Conversion
import Conformance.Proofs.Feature.SingleLine
import Conformance.Proofs.Report.Layout
import Conformance.Proofs.Scope.Unwinding
import Conformance.Proofs.Fixture.Chains
import Conformance.Proofs.Scope.Composition
