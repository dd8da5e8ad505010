import SpineGrammar.Address
import SpineGrammar.Address.Dotted
import SpineGrammar.Attachment
import SpineGrammar.Bounds
import SpineGrammar.Character.Age
import SpineGrammar.Character.Category
import SpineGrammar.Character.Charset
import SpineGrammar.Character.Property
import SpineGrammar.Character.Query
import SpineGrammar.Character.Script
import SpineGrammar.Character.ScriptExtension
import SpineGrammar.Character.Segmentation
import SpineGrammar.Derivation.Action
import SpineGrammar.Derivation.Run
import SpineGrammar.Derivation.State
import SpineGrammar.Fault
import SpineGrammar.Grammar.Basic
import SpineGrammar.Grammar.Config
import SpineGrammar.Interchange.Config
import SpineGrammar.Interchange.Grammar
import SpineGrammar.Interchange.Record
import SpineGrammar.Interchange.Rule
import SpineGrammar.Interchange.Semantics
import SpineGrammar.Interchange.Tree
import SpineGrammar.Json.Basic
import SpineGrammar.Json.Decode
import SpineGrammar.Json.Printer
import SpineGrammar.Json.Reader
import SpineGrammar.Pattern.Basic
import SpineGrammar.Pattern.CharClass
import SpineGrammar.Pattern.Escape
import SpineGrammar.Pattern.Flags
import SpineGrammar.Pattern.Normal
import SpineGrammar.Pattern.Reader
import SpineGrammar.Pattern.Search
import SpineGrammar.Pattern.Size
import SpineGrammar.Phrase.Basic
import SpineGrammar.Phrase.Rewriting
import SpineGrammar.Proofs.Anchoring
import SpineGrammar.Proofs.Applicable
import SpineGrammar.Proofs.BracketedText
import SpineGrammar.Proofs.Commutation
import SpineGrammar.Proofs.Conservation
import SpineGrammar.Proofs.Delimiters
import SpineGrammar.Proofs.DottedAddresses
import SpineGrammar.Proofs.DrawnSpans
import SpineGrammar.Proofs.Duplicates
import SpineGrammar.Proofs.Editing
import SpineGrammar.Proofs.EntityNames
import SpineGrammar.Proofs.Enumeration
import SpineGrammar.Proofs.Frame
import SpineGrammar.Proofs.FrontierChange
import SpineGrammar.Proofs.GraphInsertion
import SpineGrammar.Proofs.Inheritance
import SpineGrammar.Proofs.Insertion
import SpineGrammar.Proofs.InsertionIndex
import SpineGrammar.Proofs.Legality
import SpineGrammar.Proofs.Lexemes
import SpineGrammar.Proofs.Lexicalization
import SpineGrammar.Proofs.Loading
import SpineGrammar.Proofs.LoadingFaults
import SpineGrammar.Proofs.Notation
import SpineGrammar.Proofs.NounRuns
import SpineGrammar.Proofs.Outcome
import SpineGrammar.Proofs.Phases
import SpineGrammar.Proofs.Progress
import SpineGrammar.Proofs.Projection
import SpineGrammar.Proofs.Readdressing
import SpineGrammar.Proofs.RecordTrees
import SpineGrammar.Proofs.Refinement
import SpineGrammar.Proofs.RuleText
import SpineGrammar.Proofs.Selection
import SpineGrammar.Proofs.SideCounts
import SpineGrammar.Proofs.Snapshots
import SpineGrammar.Proofs.SoundTables
import SpineGrammar.Proofs.Soundness
import SpineGrammar.Proofs.SpineEnd
import SpineGrammar.Proofs.SpineNotation
import SpineGrammar.Proofs.SpineSides
import SpineGrammar.Proofs.Splice
import SpineGrammar.Proofs.Successors
import SpineGrammar.Proofs.SurfaceOrder
import SpineGrammar.Proofs.TableChange
import SpineGrammar.Proofs.Targets
import SpineGrammar.Proofs.Traversal
import SpineGrammar.Proofs.Turns
import SpineGrammar.Proofs.Unambiguity
import SpineGrammar.Proofs.Unfolding
import SpineGrammar.Proofs.Walk
import SpineGrammar.Proofs.Whitelist
import SpineGrammar.Records.Basic
import SpineGrammar.Records.Conversion
import SpineGrammar.Rule
import SpineGrammar.Semantics.Formula
import SpineGrammar.Semantics.Graph
import SpineGrammar.Snapshot.Decode
import SpineGrammar.Snapshot.Printer
import SpineGrammar.Snapshot.Reader
import SpineGrammar.Snapshot.Tree
import SpineGrammar.Snapshot.Value
import SpineGrammar.Sorted.Map
import SpineGrammar.Sorted.Set
import SpineGrammar.Text.Blank
import SpineGrammar.Text.CaseTable
import SpineGrammar.Text.CodeRange
import SpineGrammar.Text.Decimal
import SpineGrammar.Text.EscapeTable
import SpineGrammar.Text.Joining
import SpineGrammar.Text.LetterTable
import SpineGrammar.Text.Numeral
import SpineGrammar.Text.Quoted
import SpineGrammar.Text.Utf8
import SpineGrammar.Text.Width
import SpineGrammar.Text.WidthTable
import SpineGrammar.Text.WordTable
import SpineGrammar.Toml.Number
import SpineGrammar.Toml.Reader
import SpineGrammar.Toml.Text
import SpineGrammar.Toml.Value
import SpineGrammar.Tree.Basic
import SpineGrammar.Tree.Drawing
import SpineGrammar.Tree.Edit
import SpineGrammar.Tree.Forest
import SpineGrammar.Tree.Frontier
import SpineGrammar.Tree.Sound
import SpineGrammar.Tree.Spine
