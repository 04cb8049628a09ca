import Codemod.Batch
import Codemod.Command.Arguments
import Codemod.Command.Fix
import Codemod.Command.Flag
import Codemod.Command.Help
import Codemod.Command.Program
import Codemod.Config.Basic
import Codemod.Config.File
import Codemod.Config.Load
import Codemod.Date
import Codemod.Draft
import Codemod.Error
import Codemod.Files.Discover
import Codemod.Files.Replace
import Codemod.Files.Tree
import Codemod.Fix.Basic
import Codemod.Fix.NetAddrKeyed
import Codemod.Fix.NetDial
import Codemod.FixedPoint
import Codemod.Glob.Brace
import Codemod.Glob.Fault
import Codemod.Glob.Group
import Codemod.Glob.Pattern
import Codemod.Glob.Segment
import Codemod.Glob.Set
import Codemod.Grammar.Bindings
import Codemod.Grammar.Classes
import Codemod.Grammar.Directive
import Codemod.Grammar.Expressions
import Codemod.Grammar.Modules
import Codemod.Grammar.Names
import Codemod.Grammar.SourceFile
import Codemod.Grammar.Spelling
import Codemod.Grammar.Start
import Codemod.Grammar.State
import Codemod.Grammar.Statements
import Codemod.Grammar.Tags
import Codemod.Grammar.Types
import Codemod.Grammar.Untyped
import Codemod.Imports.Bindings
import Codemod.Imports.Resolve
import Codemod.Imports.Scope
import Codemod.Layout.Comment
import Codemod.Layout.Expressions
import Codemod.Layout.Page
import Codemod.Layout.Parts
import Codemod.Layout.Print
import Codemod.Layout.Series
import Codemod.Layout.Statements
import Codemod.Layout.Types
import Codemod.Log
import Codemod.Main
import Codemod.Naming.Distance
import Codemod.Naming.NameList
import Codemod.Naming.Suggestion
import Codemod.Number.Binary64
import Codemod.Number.Numeral
import Codemod.Outcome
import Codemod.Patch.Script
import Codemod.Patch.Unified
import Codemod.Path
import Codemod.Regex.Basic
import Codemod.Regex.Reader
import Codemod.Registry
import Codemod.Syntax.Comment
import Codemod.Syntax.Expression
import Codemod.Syntax.Kind
import Codemod.Syntax.Lexer
import Codemod.Syntax.Literal
import Codemod.Syntax.Node
import Codemod.Syntax.Precedence
import Codemod.Syntax.Source
import Codemod.Syntax.Token
import Codemod.Syntax.Transform
import Codemod.Syntax.Walk
import Codemod.Text.Blank
import Codemod.Text.Category
import Codemod.Text.Letters
import Codemod.Text.Units
import Codemod.Text.Utf8
import Codemod.Value
import Codemod.Yaml.Compose
import Codemod.Yaml.Document
import Codemod.Yaml.Entries
import Codemod.Yaml.Failure
import Codemod.Yaml.Property
import Codemod.Yaml.Reader
import Codemod.Yaml.Scalar
import Codemod.Yaml.Schema
import Codemod.Yaml.Timestamp
import Codemod.Proofs.Edits
import Codemod.Proofs.Driving
import Codemod.Proofs.Settling
import Codemod.Proofs.Honesty
import Codemod.Proofs.Places
import Codemod.Proofs.Positions
import Codemod.Proofs.Spans.Readers
import Codemod.Proofs.Spans.Types
import Codemod.Proofs.Spans.Expressions
import Codemod.Proofs.Spans.Statements
import Codemod.Proofs.Shadowing
import Codemod.Proofs.Hoisting
import Codemod.Proofs.Visiting
import Codemod.Proofs.Importing
import Codemod.Proofs.Migration
import Codemod.Proofs.Lookup
import Codemod.Proofs.UnitOrder
import Codemod.Proofs.Replacement
import Codemod.Proofs.FileByFile
import Codemod.Proofs.Stopping
import Codemod.Proofs.Erasure
import Codemod.Proofs.Firing
import Codemod.Proofs.Passes
import Codemod.Proofs.Exchange
import Codemod.Proofs.Encoding
import Codemod.Proofs.Preview
import Codemod.Proofs.Lifecycle
import Codemod.Proofs.Calls
import Codemod.Proofs.Keying
import Codemod.Proofs.Diagonals
import Codemod.Proofs.Applying
import Codemod.Proofs.Hunks
import Codemod.Proofs.Capping
import Codemod.Proofs.RunOrder
import Codemod.Proofs.Remarks
import Codemod.Proofs.Verdict
import Codemod.Proofs.Reporting
import Codemod.Proofs.Dialling
import Codemod.Proofs.Passing
import Codemod.Proofs.ShortCircuit
import Codemod.Proofs.Interrupting
import Codemod.Proofs.Alignments
import Codemod.Proofs.Offering
import Codemod.Proofs.Trimming
import Codemod.Proofs.Rounding
import Codemod.Proofs.Numerals
import Codemod.Proofs.DayCount
import Codemod.Proofs.FileSchema
import Codemod.Proofs.Layering
import Codemod.Proofs.Preorder
import Codemod.Proofs.Accounting
import Codemod.Proofs.Discovering
import Codemod.Proofs.Stripping
import Codemod.Proofs.Misreading
import Codemod.Proofs.Enclosing
import Codemod.Proofs.Rising
import Codemod.Proofs.NameLists
