import Reckoner.Bindings
import Reckoner.Builtin
import Reckoner.Calculator
import Reckoner.Comparison
import Reckoner.Config
import Reckoner.Error
import Reckoner.Evaluation
import Reckoner.Expression
import Reckoner.Lexeme
import Reckoner.Matcher
import Reckoner.Number.Binary
import Reckoner.Number.Layout
import Reckoner.Number.Numeral
import Reckoner.Number.Shortest
import Reckoner.Pattern.Automaton
import Reckoner.Pattern.Bracketed
import Reckoner.Pattern.CharClass
import Reckoner.Pattern.ClassDraft
import Reckoner.Pattern.Draft
import Reckoner.Pattern.Edge
import Reckoner.Pattern.Escape
import Reckoner.Pattern.Flags
import Reckoner.Pattern.Footprint
import Reckoner.Pattern.Reader
import Reckoner.Pattern.Regular
import Reckoner.Pattern.Whole
import Reckoner.Proofs.Acceptance
import Reckoner.Proofs.Arguments
import Reckoner.Proofs.Atomicity
import Reckoner.Proofs.BracketRules
import Reckoner.Proofs.ByteLengths
import Reckoner.Proofs.CacheHits
import Reckoner.Proofs.Capacity
import Reckoner.Proofs.CharacterClasses
import Reckoner.Proofs.Completion
import Reckoner.Proofs.Conversion
import Reckoner.Proofs.Denotation
import Reckoner.Proofs.Division
import Reckoner.Proofs.Doubles
import Reckoner.Proofs.Equality
import Reckoner.Proofs.Extension
import Reckoner.Proofs.Fence
import Reckoner.Proofs.ForeignDigits
import Reckoner.Proofs.Grammar
import Reckoner.Proofs.Grouping
import Reckoner.Proofs.Isolation
import Reckoner.Proofs.Items
import Reckoner.Proofs.Language
import Reckoner.Proofs.LiteralRules
import Reckoner.Proofs.Literals
import Reckoner.Proofs.LongestMatch
import Reckoner.Proofs.MarkerCount
import Reckoner.Proofs.Markers
import Reckoner.Proofs.Misreading
import Reckoner.Proofs.Nesting
import Reckoner.Proofs.Numerals
import Reckoner.Proofs.OneOrder
import Reckoner.Proofs.OperatorStack
import Reckoner.Proofs.Parsing
import Reckoner.Proofs.Plain
import Reckoner.Proofs.Popping
import Reckoner.Proofs.Precedence
import Reckoner.Proofs.Provenance
import Reckoner.Proofs.Reconstruction
import Reckoner.Proofs.Registration
import Reckoner.Proofs.Renaming
import Reckoner.Proofs.Resolution
import Reckoner.Proofs.RuleOrder
import Reckoner.Proofs.Runs
import Reckoner.Proofs.Separation
import Reckoner.Proofs.Sequences
import Reckoner.Proofs.StrictDivision
import Reckoner.Proofs.Structure
import Reckoner.Proofs.Substitution
import Reckoner.Proofs.SymbolOrder
import Reckoner.Proofs.SymbolTable
import Reckoner.Proofs.Tables
import Reckoner.Proofs.TokenStack
import Reckoner.Proofs.Tokenization
import Reckoner.Proofs.Transparency
import Reckoner.Proofs.Tree
import Reckoner.Proofs.Unambiguity
import Reckoner.Proofs.Unmentioned
import Reckoner.Proofs.Variables
import Reckoner.Record
import Reckoner.Registry
import Reckoner.ReversePolish
import Reckoner.Session
import Reckoner.Stack
import Reckoner.Text.Alphanumeric
import Reckoner.Text.Blank
import Reckoner.Text.CaseFolding
import Reckoner.Text.CodePoints
import Reckoner.Text.DecimalDigit
import Reckoner.Text.Identifier
import Reckoner.Text.Quoted
import Reckoner.Text.Unprinted
import Reckoner.Text.Utf8
import Reckoner.Text.WordCharacter
import Reckoner.Token
import Reckoner.Value
