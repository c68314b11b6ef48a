import Laminar.Call.Arguments
import Laminar.Call.Builtin
import Laminar.Call.Construct
import Laminar.Call.Fill
import Laminar.CommandLine.FileTree
import Laminar.CommandLine.Options
import Laminar.CommandLine.Param
import Laminar.CommandLine.Run
import Laminar.Decimal.Column
import Laminar.Decimal.Layout
import Laminar.Decimal.Places
import Laminar.Decimal.Reader
import Laminar.Decimal.Shortest
import Laminar.Diagnostic
import Laminar.Eval
import Laminar.Expansion.Call
import Laminar.Expansion.Compile
import Laminar.Fault
import Laminar.Folding
import Laminar.Instruction
import Laminar.Layer.Function
import Laminar.Layer.Instance
import Laminar.Layer.Reading
import Laminar.Layer.Signature
import Laminar.Layer.Standard
import Laminar.Layer.Template
import Laminar.Main
import Laminar.Net.Assembly
import Laminar.Net.Basic
import Laminar.Net.Listing
import Laminar.Node.Format
import Laminar.Node.View
import Laminar.Numeric.Binary
import Laminar.Numeric.Complex
import Laminar.Numeric.Fixed
import Laminar.Numeric.Quotient
import Laminar.Numeric.Range
import Laminar.Numeric.Single
import Laminar.Primitive
import Laminar.Registry
import Laminar.Scope
import Laminar.Script
import Laminar.Source.CodePage
import Laminar.Source.Encoding
import Laminar.Source.Expr
import Laminar.Source.Printer
import Laminar.Source.Reader
import Laminar.Source.Statement
import Laminar.Source.Token
import Laminar.Source.Writable
import Laminar.Symbol
import Laminar.Table
import Laminar.Tensor.Basic
import Laminar.Tensor.Convert
import Laminar.Tensor.Sampling
import Laminar.Text.Blank
import Laminar.Text.CharacterName
import Laminar.Text.CharacterName.Alias
import Laminar.Text.CharacterName.EastAsian
import Laminar.Text.CharacterName.Letters
import Laminar.Text.CharacterName.Notations
import Laminar.Text.CharacterName.OldScripts
import Laminar.Text.CharacterName.Symbols
import Laminar.Text.Decomposition
import Laminar.Text.Digit
import Laminar.Text.Nested
import Laminar.Text.Normal
import Laminar.Text.Printable
import Laminar.Text.Quoted
import Laminar.Text.Repeated
import Laminar.Text.Surrogate
import Laminar.Value.Arithmetic
import Laminar.Value.Attribute
import Laminar.Value.Basic
import Laminar.Value.Builtin
import Laminar.Value.Elementwise
import Laminar.Value.Equality
import Laminar.Value.FixedArithmetic
import Laminar.Value.Formatting
import Laminar.Value.Identity
import Laminar.Value.Operators
import Laminar.Value.Order
import Laminar.Value.Sequence
import Laminar.Value.SetItems
import Laminar.Value.Text
import Laminar.Value.Writable
import Laminar.Workspace
import Laminar.Proofs.Computation
import Laminar.Proofs.Minting
import Laminar.Proofs.Acceptance
import Laminar.Proofs.Evaluation
import Laminar.Proofs.Binding
import Laminar.Proofs.Emission
import Laminar.Proofs.Arguments
import Laminar.Proofs.Expansion
import Laminar.Proofs.Instance
import Laminar.Proofs.SingleAssignment
import Laminar.Proofs.Registers
import Laminar.Proofs.RegisterOrder
import Laminar.Proofs.Scoping
import Laminar.Proofs.Forwarding
import Laminar.Proofs.ResultBinding
import Laminar.Proofs.Wording
import Laminar.Proofs.Location
import Laminar.Proofs.CallLanguage
import Laminar.Proofs.Language
import Laminar.Proofs.Renaming
import Laminar.Proofs.RenamedEmission
import Laminar.Proofs.RenamedLayers
import Laminar.Proofs.Determinism
import Laminar.Proofs.Comparison
import Laminar.Proofs.Unfolding
import Laminar.Proofs.CallGraph
import Laminar.Proofs.Flattening
import Laminar.Proofs.InstructionCount
import Laminar.Proofs.LayerFunctions
import Laminar.Proofs.ExactOrder
import Laminar.Proofs.WellFormed
import Laminar.Proofs.Extension
import Laminar.Proofs.Reuse
import Laminar.Proofs.RegistryHistory
import Laminar.Proofs.AssemblyAcceptance
import Laminar.Proofs.RegisterNumbers
import Laminar.Proofs.RenamedPrograms
import Laminar.Proofs.ClosedForm
import Laminar.Proofs.StandardLayers
import Laminar.Proofs.Grouping
import Laminar.Proofs.Transcription
import Laminar.Proofs.Closing
import Laminar.Proofs.Independence
import Laminar.Proofs.KeywordFlow
import Laminar.Proofs.OperatorHash
import Laminar.Proofs.FreshNames
