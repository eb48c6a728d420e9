import JsonSchema.Address.Ipv4
import JsonSchema.Address.Ipv6
import JsonSchema.Binary64.Basic
import JsonSchema.Binary64.Rounding
import JsonSchema.Decimal.Layout
import JsonSchema.Decimal.Shortest
import JsonSchema.Format.Basic
import JsonSchema.Format.Builtin
import JsonSchema.Format.DateTime
import JsonSchema.Format.Duration
import JsonSchema.Format.Email
import JsonSchema.Format.IntegerRange
import JsonSchema.Idna.DirectionData
import JsonSchema.Idna.Domain
import JsonSchema.Idna.JoiningData
import JsonSchema.Idna.Label
import JsonSchema.Idna.Mapping
import JsonSchema.Idna.MappingData
import JsonSchema.Idna.Punycode
import JsonSchema.Json.Number
import JsonSchema.Json.Reader
import JsonSchema.Json.Text
import JsonSchema.Json.TypeName
import JsonSchema.Json.Value
import JsonSchema.Pointer.Basic
import JsonSchema.Pointer.Evaluate
import JsonSchema.Pointer.Written
import JsonSchema.Proofs.Address.Characters
import JsonSchema.Proofs.Binary64.Magnitude
import JsonSchema.Proofs.Binary64.Owner
import JsonSchema.Proofs.Binary64.Quotient
import JsonSchema.Proofs.Binary64.Rounding
import JsonSchema.Proofs.Compilation.Acceptance
import JsonSchema.Proofs.Compilation.Bases
import JsonSchema.Proofs.Compilation.Build
import JsonSchema.Proofs.Compilation.Compiled
import JsonSchema.Proofs.Compilation.Counterparts
import JsonSchema.Proofs.Compilation.Documents
import JsonSchema.Proofs.Compilation.Exploration
import JsonSchema.Proofs.Compilation.InPlace
import JsonSchema.Proofs.Compilation.Inert
import JsonSchema.Proofs.Compilation.Inside
import JsonSchema.Proofs.Compilation.Limits
import JsonSchema.Proofs.Compilation.Order
import JsonSchema.Proofs.Compilation.Parallel
import JsonSchema.Proofs.Compilation.Reached
import JsonSchema.Proofs.Compilation.Rebuilding
import JsonSchema.Proofs.Compilation.Returning
import JsonSchema.Proofs.Compilation.Run
import JsonSchema.Proofs.Compilation.SelfReference
import JsonSchema.Proofs.Compilation.Shapes
import JsonSchema.Proofs.Compilation.Slots
import JsonSchema.Proofs.Compilation.Sound
import JsonSchema.Proofs.Compilation.Termination
import JsonSchema.Proofs.Decimal.Reading
import JsonSchema.Proofs.Decimal.Shortest
import JsonSchema.Proofs.Evaluation.Acyclic
import JsonSchema.Proofs.Evaluation.Agreement
import JsonSchema.Proofs.Evaluation.Call
import JsonSchema.Proofs.Evaluation.Cyclic
import JsonSchema.Proofs.Evaluation.Termination
import JsonSchema.Proofs.Explanation.Completeness
import JsonSchema.Proofs.Explanation.Fault
import JsonSchema.Proofs.Explanation.Findings
import JsonSchema.Proofs.Explanation.Leaves
import JsonSchema.Proofs.Explanation.Order
import JsonSchema.Proofs.Explanation.Outcomes
import JsonSchema.Proofs.Explanation.Output
import JsonSchema.Proofs.Explanation.Plan
import JsonSchema.Proofs.Explanation.Route
import JsonSchema.Proofs.Format.Duration
import JsonSchema.Proofs.Format.Email
import JsonSchema.Proofs.Format.Hostname
import JsonSchema.Proofs.Format.IntegerRange
import JsonSchema.Proofs.Meaning.Alone
import JsonSchema.Proofs.Meaning.Faithful
import JsonSchema.Proofs.Meaning.Judgement
import JsonSchema.Proofs.Meaning.Keywords
import JsonSchema.Proofs.Meaning.Order
import JsonSchema.Proofs.Meaning.Transfer
import JsonSchema.Proofs.Number.Comparison
import JsonSchema.Proofs.Number.Count
import JsonSchema.Proofs.Number.Multiple
import JsonSchema.Proofs.Number.Value
import JsonSchema.Proofs.Outcome
import JsonSchema.Proofs.Pointer.Grammar
import JsonSchema.Proofs.Pointer.Text
import JsonSchema.Proofs.Pointer.Written
import JsonSchema.Proofs.Registry.Absolute
import JsonSchema.Proofs.Registry.Address
import JsonSchema.Proofs.Registry.Alike
import JsonSchema.Proofs.Registry.Anchors
import JsonSchema.Proofs.Registry.Asking
import JsonSchema.Proofs.Registry.Declared
import JsonSchema.Proofs.Registry.Extended
import JsonSchema.Proofs.Registry.Growth
import JsonSchema.Proofs.Registry.History
import JsonSchema.Proofs.Registry.Identified
import JsonSchema.Proofs.Registry.Kept
import JsonSchema.Proofs.Registry.Nesting
import JsonSchema.Proofs.Registry.Order
import JsonSchema.Proofs.Registry.OwnReference
import JsonSchema.Proofs.Registry.Ownership
import JsonSchema.Proofs.Registry.Positions
import JsonSchema.Proofs.Registry.Resolution
import JsonSchema.Proofs.Registry.Scan
import JsonSchema.Proofs.Registry.Single
import JsonSchema.Proofs.Registry.Soundness
import JsonSchema.Proofs.Url.Decoding
import JsonSchema.Proofs.Url.Fragment
import JsonSchema.Proofs.Url.Normal
import JsonSchema.Proofs.Url.Percent
import JsonSchema.Proofs.Url.Unescape
import JsonSchema.Proofs.Value.Equality
import JsonSchema.Proofs.Value.Extended
import JsonSchema.Proofs.Value.Identity
import JsonSchema.Proofs.Value.Paths
import JsonSchema.Proofs.Value.Position
import JsonSchema.Proofs.Yaml.Convertible
import JsonSchema.Proofs.Yaml.Mirrors
import JsonSchema.Proofs.Yaml.Numeral
import JsonSchema.Proofs.Yaml.Plain
import JsonSchema.Regex.Basic
import JsonSchema.Regex.Bracket
import JsonSchema.Regex.Class
import JsonSchema.Regex.Escape
import JsonSchema.Regex.Parse
import JsonSchema.Regex.Search
import JsonSchema.Regex.Size
import JsonSchema.Registry.Basic
import JsonSchema.Registry.Declaration
import JsonSchema.Registry.Error
import JsonSchema.Registry.Reference
import JsonSchema.Schema.Check
import JsonSchema.Schema.Compile
import JsonSchema.Schema.Cycle
import JsonSchema.Schema.Error
import JsonSchema.Schema.Keyword
import JsonSchema.Schema.Location
import JsonSchema.Schema.Node
import JsonSchema.Text.Digits
import JsonSchema.Text.Visible
import JsonSchema.Unicode.Age
import JsonSchema.Unicode.Blank
import JsonSchema.Unicode.CaseFolding
import JsonSchema.Unicode.CodeSet
import JsonSchema.Unicode.Folding
import JsonSchema.Unicode.GeneralCategory
import JsonSchema.Unicode.Named
import JsonSchema.Unicode.Normalization
import JsonSchema.Unicode.NormalizationData
import JsonSchema.Unicode.Property
import JsonSchema.Unicode.Script
import JsonSchema.Unicode.ScriptExtensions
import JsonSchema.Unicode.Segmentation
import JsonSchema.Url.Basic
import JsonSchema.Url.Error
import JsonSchema.Url.Host
import JsonSchema.Url.Path
import JsonSchema.Url.Percent
import JsonSchema.Url.Resolve
import JsonSchema.Validation.Evaluate
import JsonSchema.Validation.Explain
import JsonSchema.Validation.Failure
import JsonSchema.Validation.Output
import JsonSchema.Validation.Report
import JsonSchema.Validation.Validator
import JsonSchema.Yaml.Basic
import JsonSchema.Yaml.Cursor
import JsonSchema.Yaml.Document
import JsonSchema.Yaml.Json
import JsonSchema.Yaml.Node
import JsonSchema.Yaml.Scalar
import JsonSchema.Yaml.Text
import JsonSchema.Yaml.Token
