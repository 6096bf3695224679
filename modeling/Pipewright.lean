import Pipewright.Builder.Emitter
import Pipewright.Builder.Naming
import Pipewright.Builder.Replay
import Pipewright.Builder.Source
import Pipewright.Canonical.Comparison
import Pipewright.Canonical.Normalize
import Pipewright.CommandLine.Arguments
import Pipewright.CommandLine.Command
import Pipewright.CommandLine.FileName
import Pipewright.CommandLine.Files
import Pipewright.CommandLine.Program
import Pipewright.CommandLine.Wildcard
import Pipewright.Counting
import Pipewright.Digest.Sha256
import Pipewright.Expression
import Pipewright.Json.Basic
import Pipewright.Json.Pointer
import Pipewright.Json.Reader
import Pipewright.Json.Text
import Pipewright.Main
import Pipewright.Number.Binary64
import Pipewright.Number.Digit
import Pipewright.Number.Shortest
import Pipewright.Pattern.Basic
import Pipewright.Pattern.CharacterSet
import Pipewright.Pattern.Fault
import Pipewright.Pattern.Matcher
import Pipewright.Pattern.Reader
import Pipewright.Pattern.Tree
import Pipewright.Proofs.Builder.Balance
import Pipewright.Proofs.Builder.Emission
import Pipewright.Proofs.Builder.Evaluation
import Pipewright.Proofs.Builder.Failure
import Pipewright.Proofs.Builder.Imports
import Pipewright.Proofs.Builder.Layout
import Pipewright.Proofs.Builder.Leftovers
import Pipewright.Proofs.Builder.Literals
import Pipewright.Proofs.Builder.MethodNames
import Pipewright.Proofs.Builder.Progress
import Pipewright.Proofs.Builder.Reading
import Pipewright.Proofs.Builder.RoundTrip
import Pipewright.Proofs.Builder.Stacking
import Pipewright.Proofs.Builder.Templates
import Pipewright.Proofs.Builder.Tokens
import Pipewright.Proofs.Canonical.Comparing
import Pipewright.Proofs.Canonical.Congruence
import Pipewright.Proofs.Canonical.Decision
import Pipewright.Proofs.Canonical.Idempotence
import Pipewright.Proofs.Canonical.Identification
import Pipewright.Proofs.Canonical.KeyOrder
import Pipewright.Proofs.Canonical.Lifting
import Pipewright.Proofs.Canonical.NormalForm
import Pipewright.Proofs.Canonical.Respacing
import Pipewright.Proofs.Canonical.Sorting
import Pipewright.Proofs.Canonical.Termination
import Pipewright.Proofs.CommandLine.FileNames
import Pipewright.Proofs.CommandLine.Outputs
import Pipewright.Proofs.CommandLine.Running
import Pipewright.Proofs.CommandLine.Writing
import Pipewright.Proofs.Expression.Bodies
import Pipewright.Proofs.Expression.Cuts
import Pipewright.Proofs.Expression.Decomposition
import Pipewright.Proofs.Expression.Segments
import Pipewright.Proofs.Expression.Tokens
import Pipewright.Proofs.Json.Doubles
import Pipewright.Proofs.Json.Entries
import Pipewright.Proofs.Json.Fragments
import Pipewright.Proofs.Json.Injectivity
import Pipewright.Proofs.Json.Keys
import Pipewright.Proofs.Json.Pointers
import Pipewright.Proofs.Json.Reordering
import Pipewright.Proofs.Json.Replacing
import Pipewright.Proofs.Json.Strings
import Pipewright.Proofs.Json.Words
import Pipewright.Proofs.Resolution.Acyclic
import Pipewright.Proofs.Resolution.Applicability
import Pipewright.Proofs.Resolution.Cycles
import Pipewright.Proofs.Resolution.Families
import Pipewright.Proofs.Resolution.Flattening
import Pipewright.Proofs.Resolution.Indifference
import Pipewright.Proofs.Resolution.Merging
import Pipewright.Proofs.Resolution.Runs
import Pipewright.Proofs.Resolution.Selection
import Pipewright.Proofs.Resolution.Unfolding
import Pipewright.Proofs.Rules.Callers
import Pipewright.Proofs.Rules.Deriving
import Pipewright.Proofs.Rules.Invisibility
import Pipewright.Proofs.Rules.Links
import Pipewright.Proofs.Rules.Loops
import Pipewright.Proofs.Rules.Scanning
import Pipewright.Proofs.Rules.TextDependence
import Pipewright.Proofs.Schema.Doubles
import Pipewright.Proofs.Schema.Grammar
import Pipewright.Proofs.Schema.Layers
import Pipewright.Proofs.Schema.Names
import Pipewright.Proofs.Schema.References
import Pipewright.Proofs.Schema.Subnodes
import Pipewright.Proofs.Unicode.ByteOrder
import Pipewright.Proofs.Walk.Addresses
import Pipewright.Proofs.Walk.Events
import Pipewright.Proofs.Walk.FullWalk
import Pipewright.Proofs.Walk.KeyOrder
import Pipewright.Proofs.Walk.Locality
import Pipewright.Proofs.Walk.Outline
import Pipewright.Proofs.Walk.Paths
import Pipewright.Proofs.Walk.Places
import Pipewright.Proofs.Walk.Pruning
import Pipewright.Proofs.Walk.Reuse
import Pipewright.Proofs.Walk.Sharing
import Pipewright.Proofs.Walk.Steps
import Pipewright.Resolve
import Pipewright.Rules.Cache
import Pipewright.Rules.Derivation
import Pipewright.Rules.Table
import Pipewright.Schema.Basic
import Pipewright.Schema.Form
import Pipewright.Schema.Node
import Pipewright.Schema.PrimitiveType
import Pipewright.Schema.TagReader
import Pipewright.Unicode.Blank
import Pipewright.Unicode.CaseFolding
import Pipewright.Unicode.Category
import Pipewright.Unicode.Property
import Pipewright.Unicode.Runs
import Pipewright.Unicode.Script
import Pipewright.Unicode.UpperCase
import Pipewright.Unicode.Visible
import Pipewright.Walk.Fanout
import Pipewright.Walk.Observer
import Pipewright.Walk.Traversal
import Pipewright.Yaml.BlockScalar
import Pipewright.Yaml.Cursor
import Pipewright.Yaml.Document
import Pipewright.Yaml.Event
import Pipewright.Yaml.Fault
import Pipewright.Yaml.Gap
import Pipewright.Yaml.Label
import Pipewright.Yaml.Lexer
import Pipewright.Yaml.PlainScalar
import Pipewright.Yaml.PlainValue
import Pipewright.Yaml.QuotedScalar
import Pipewright.Yaml.Reader
import Pipewright.Yaml.Token
