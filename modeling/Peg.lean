import Peg.CharSet.Basic
import Peg.CharSet.Class
import Peg.Decimal.Binary
import Peg.Decimal.Layout
import Peg.Decimal.Read
import Peg.Decimal.Shortest
import Peg.Grammar.Blueprint
import Peg.Grammar.Combinator
import Peg.Grammar.Conversion
import Peg.Grammar.Element
import Peg.Grammar.Numeral
import Peg.Grammar.Part
import Peg.Grammar.Printer
import Peg.Palette
import Peg.Parse.Combination
import Peg.Parse.Contribution
import Peg.Parse.Engine
import Peg.Parse.Error
import Peg.Parse.Leaf
import Peg.Parse.Run
import Peg.Parse.State
import Peg.Proofs.Anchored
import Peg.Proofs.Assembly
import Peg.Proofs.Balance
import Peg.Proofs.Beside
import Peg.Proofs.BigStep
import Peg.Proofs.Captures
import Peg.Proofs.Colour
import Peg.Proofs.Completeness
import Peg.Proofs.Contribution
import Peg.Proofs.Correspondence
import Peg.Proofs.Course
import Peg.Proofs.Cutting
import Peg.Proofs.Dangling
import Peg.Proofs.Decoration
import Peg.Proofs.Depth
import Peg.Proofs.Diagnosis
import Peg.Proofs.Effort
import Peg.Proofs.Equality
import Peg.Proofs.Expansion
import Peg.Proofs.Extension
import Peg.Proofs.Forward
import Peg.Proofs.Fuel
import Peg.Proofs.History
import Peg.Proofs.Indentation
import Peg.Proofs.JsonReader
import Peg.Proofs.Labelling
import Peg.Proofs.LeadingSkip
import Peg.Proofs.Leaf
import Peg.Proofs.Limits
import Peg.Proofs.LineColumn
import Peg.Proofs.Lockstep
import Peg.Proofs.Machine
import Peg.Proofs.MaximalRun
import Peg.Proofs.Membership
import Peg.Proofs.Nesting
import Peg.Proofs.NormalForm
import Peg.Proofs.Numeral
import Peg.Proofs.Observer
import Peg.Proofs.Outcome
import Peg.Proofs.Ownership
import Peg.Proofs.PanicFree
import Peg.Proofs.Passage
import Peg.Proofs.PatternLeaf
import Peg.Proofs.Position
import Peg.Proofs.ReadBack
import Peg.Proofs.Recorded
import Peg.Proofs.Registers
import Peg.Proofs.Retreat
import Peg.Proofs.Scan
import Peg.Proofs.ScannerProgram
import Peg.Proofs.SideBySide
import Peg.Proofs.Soundness
import Peg.Proofs.Threads
import Peg.Proofs.Tokens
import Peg.Proofs.TypedLeaf
import Peg.Proofs.Unwrapping
import Peg.Proofs.WholeNumber
import Peg.Proofs.WholeText
import Peg.Regex.Basic
import Peg.Regex.Class
import Peg.Regex.Expr
import Peg.Regex.Footprint
import Peg.Regex.Parser
import Peg.Regex.Pattern
import Peg.Regex.Program
import Peg.Regex.Resolve
import Peg.Regex.Search
import Peg.Scanner.Basic
import Peg.Scanner.Program
import Peg.Text.Cursor
import Peg.Text.Quoted
import Peg.Trace.Event
import Peg.Trace.Transcript
import Peg.Unicode.Alphabetic
import Peg.Unicode.Blank
import Peg.Unicode.CaseFold
import Peg.Unicode.GraphemeExtend
import Peg.Unicode.Greek
import Peg.Unicode.Hidden
import Peg.Unicode.Ignorable
import Peg.Unicode.Letter
import Peg.Unicode.Mark
import Peg.Unicode.Newcomer
import Peg.Unicode.Number
import Peg.Unicode.Ranges
import Peg.Unicode.Uppercase
import Peg.Value.Basic
import Peg.Value.Printer
