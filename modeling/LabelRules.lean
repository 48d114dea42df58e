import LabelRules.Classifier
import LabelRules.Document.Basic
import LabelRules.Document.Event
import LabelRules.Document.Fault
import LabelRules.Document.Lexer
import LabelRules.Document.Place
import LabelRules.Document.Scalar
import LabelRules.Document.Token
import LabelRules.Document.Writer
import LabelRules.Evaluation.Basic
import LabelRules.Evaluation.Cache
import LabelRules.Evaluation.Environment
import LabelRules.Evaluation.Error
import LabelRules.Evaluation.Operation
import LabelRules.Evaluation.Run
import LabelRules.Expr.Basic
import LabelRules.Expr.Encoding
import LabelRules.Expr.Walk
import LabelRules.Labels
import LabelRules.Labels.Encoding
import LabelRules.Labels.Normal
import LabelRules.Number.Binary
import LabelRules.Number.Decimal
import LabelRules.Pattern.Automaton
import LabelRules.Pattern.Basic
import LabelRules.Pattern.Bytes
import LabelRules.Pattern.Node
import LabelRules.Pattern.Reader
import LabelRules.Pattern.Search
import LabelRules.Pattern.Shape
import LabelRules.Pattern.Size
import LabelRules.Pattern.Template
import LabelRules.Pattern.Term
import LabelRules.Program
import LabelRules.Rule
import LabelRules.RuleBook
import LabelRules.RuleBook.Document
import LabelRules.RuleBook.Setup
import LabelRules.Subject
import LabelRules.Text.Lexer
import LabelRules.Text.ParseError
import LabelRules.Text.Parser
import LabelRules.Text.Quoted
import LabelRules.Text.Token
import LabelRules.Text.Width
import LabelRules.Tree
import LabelRules.Typing.Basic
import LabelRules.Typing.Error
import LabelRules.Typing.Infer
import LabelRules.Typing.Scope
import LabelRules.Unicode.Age
import LabelRules.Unicode.Alphabet
import LabelRules.Unicode.CaseOrbit
import LabelRules.Unicode.Category
import LabelRules.Unicode.CharSet
import LabelRules.Unicode.LowerCase
import LabelRules.Unicode.Property
import LabelRules.Unicode.Script
import LabelRules.Unicode.Segmentation
import LabelRules.Unicode.Visible
import LabelRules.Value
import LabelRules.Proofs.Lockstep
import LabelRules.Proofs.Overlay
import LabelRules.Proofs.Outcome
import LabelRules.Proofs.Reach
import LabelRules.Proofs.Capabilities
import LabelRules.Proofs.Operators
import LabelRules.Proofs.Checking
import LabelRules.Proofs.Conformance
import LabelRules.Proofs.Schemas
import LabelRules.Proofs.Subjects
import LabelRules.Proofs.Blame
import LabelRules.Proofs.Soundness
import LabelRules.Proofs.TypeSafety
import LabelRules.Proofs.WrittenPatterns
import LabelRules.Proofs.SharedCache
import LabelRules.Proofs.LabelPass
import LabelRules.Proofs.GroupPass
import LabelRules.Proofs.LabelWrites
import LabelRules.Proofs.LabelHistory
import LabelRules.Proofs.Parsing.Grammar
import LabelRules.Proofs.Parsing.Reading
import LabelRules.Proofs.Parsing.Soundness
import LabelRules.Proofs.Parsing.Completeness
import LabelRules.Proofs.Numbers
import LabelRules.Proofs.Alphabet
import LabelRules.Proofs.Parsing.Spelling
import LabelRules.Proofs.Parsing.Lexing
import LabelRules.Proofs.Parsing.Lexemes
import LabelRules.Proofs.Parsing.Interchange
import LabelRules.Proofs.Parsing.Language
import LabelRules.Proofs.Parsing.Rendering
import LabelRules.Proofs.Parsing.RoundTrip
import LabelRules.Proofs.Parsing.Respelling
import LabelRules.Proofs.Parsing.Offences
import LabelRules.Proofs.Parsing.Numerals
import LabelRules.Proofs.Parsing.Synonyms
import LabelRules.Proofs.Parsing.Cursor
import LabelRules.Proofs.Parsing.CursorSteps
import LabelRules.Proofs.Parsing.CursorOrder
import LabelRules.Proofs.Agreement
import LabelRules.Proofs.RefusedPatterns
import LabelRules.Proofs.Reloading
import LabelRules.Proofs.Documents.Quoting
import LabelRules.Proofs.Documents.Tokens
import LabelRules.Proofs.Documents.Reading
import LabelRules.Proofs.BookRoundTrip
import LabelRules.Proofs.Documents.Entries
import LabelRules.Proofs.Loading
import LabelRules.Proofs.RuleValues
import LabelRules.Proofs.DataTrees
import LabelRules.Proofs.FieldRelevance
import LabelRules.Proofs.Effects
import LabelRules.Proofs.ReachedEffects
import LabelRules.Proofs.GroupHistory
import LabelRules.Proofs.CacheGrowth
import LabelRules.Proofs.LabelFrame
import LabelRules.Proofs.LogicalLaws
import LabelRules.Proofs.ArrayItems
import LabelRules.Proofs.Contexts
import LabelRules.Proofs.TernaryInversion
import LabelRules.Proofs.CallFree
import LabelRules.Proofs.Membership
import LabelRules.Proofs.NormalForms
import LabelRules.Proofs.Rebuilding
import LabelRules.Proofs.FoldedSigns
import LabelRules.Proofs.MirroredComparisons
import LabelRules.Proofs.SharedRules
