import GrammarLayout.Command.Device
import GrammarLayout.Command.FileError
import GrammarLayout.Command.FileTree
import GrammarLayout.Command.Invocation
import GrammarLayout.Command.LogOptions
import GrammarLayout.Command.Run
import GrammarLayout.Command.System
import GrammarLayout.Command.World
import GrammarLayout.Decimal.Binary64
import GrammarLayout.Decimal.Shortest
import GrammarLayout.Grammar
import GrammarLayout.GrammarTables
import GrammarLayout.Json.Container
import GrammarLayout.Json.Fault
import GrammarLayout.Json.Kind
import GrammarLayout.Json.Number
import GrammarLayout.Json.Reader
import GrammarLayout.Json.Record
import GrammarLayout.Json.Scalar
import GrammarLayout.Json.Skip
import GrammarLayout.Json.StringLiteral
import GrammarLayout.Json.Value
import GrammarLayout.Layout.Basic
import GrammarLayout.Layout.Error
import GrammarLayout.Layout.Field
import GrammarLayout.Layout.Index
import GrammarLayout.Layout.Json
import GrammarLayout.Layout.Plan
import GrammarLayout.Layout.Registry
import GrammarLayout.Listing
import GrammarLayout.Main
import GrammarLayout.Model.Document
import GrammarLayout.Model.Resolve
import GrammarLayout.Naming
import GrammarLayout.OrderedMap
import GrammarLayout.Proofs.AsciiCase
import GrammarLayout.Proofs.Built
import GrammarLayout.Proofs.CanonicalKeys
import GrammarLayout.Proofs.CodeOrder
import GrammarLayout.Proofs.Colours
import GrammarLayout.Proofs.Columns
import GrammarLayout.Proofs.Command.Effects
import GrammarLayout.Proofs.Command.Layouts
import GrammarLayout.Proofs.Command.Views
import GrammarLayout.Proofs.Complete
import GrammarLayout.Proofs.DeclarationOrder
import GrammarLayout.Proofs.Declarations
import GrammarLayout.Proofs.Derived
import GrammarLayout.Proofs.Dump
import GrammarLayout.Proofs.Effect
import GrammarLayout.Proofs.Extension
import GrammarLayout.Proofs.GrammarTables
import GrammarLayout.Proofs.Handles
import GrammarLayout.Proofs.Identifiers
import GrammarLayout.Proofs.Kept
import GrammarLayout.Proofs.Keys
import GrammarLayout.Proofs.Links
import GrammarLayout.Proofs.Lookup
import GrammarLayout.Proofs.NewClass
import GrammarLayout.Proofs.Optional
import GrammarLayout.Proofs.Owners
import GrammarLayout.Proofs.Packing
import GrammarLayout.Proofs.Planning
import GrammarLayout.Proofs.ReferenceTexts
import GrammarLayout.Proofs.References
import GrammarLayout.Proofs.Registry.Buffers
import GrammarLayout.Proofs.Registry.Effect
import GrammarLayout.Proofs.Registry.Finish
import GrammarLayout.Proofs.Registry.Handles
import GrammarLayout.Proofs.Registry.Listings
import GrammarLayout.Proofs.Registry.Packing
import GrammarLayout.Proofs.Registry.Scan
import GrammarLayout.Proofs.Registry.Standing
import GrammarLayout.Proofs.Registry.Steps
import GrammarLayout.Proofs.Rendering
import GrammarLayout.Proofs.Reordering
import GrammarLayout.Proofs.Repetition
import GrammarLayout.Proofs.Request
import GrammarLayout.Proofs.RequestList
import GrammarLayout.Proofs.Resolution
import GrammarLayout.Proofs.Scan
import GrammarLayout.Proofs.Seen
import GrammarLayout.Proofs.Signatures
import GrammarLayout.Proofs.SinkSets
import GrammarLayout.Proofs.Snapshots
import GrammarLayout.Proofs.Spelling.Container
import GrammarLayout.Proofs.Spelling.Document
import GrammarLayout.Proofs.Spelling.Numeral
import GrammarLayout.Proofs.Spelling.Record
import GrammarLayout.Proofs.Spelling.Skipped
import GrammarLayout.Proofs.Spelling.Text
import GrammarLayout.Proofs.Spelling.Token
import GrammarLayout.Proofs.Spelling.Value
import GrammarLayout.Proofs.Standing
import GrammarLayout.Proofs.Typing
import GrammarLayout.Proofs.Unique
import GrammarLayout.Sink
import GrammarLayout.Storage
import GrammarLayout.Text.CaseIgnorable
import GrammarLayout.Text.CaseTable
import GrammarLayout.Text.Cased
import GrammarLayout.Text.CodeRanges
import GrammarLayout.Text.GraphemeExtend
import GrammarLayout.Text.Lowercase
import GrammarLayout.Text.Quoted
import GrammarLayout.Text.Unprintable
