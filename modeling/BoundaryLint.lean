import BoundaryLint.Lint.Cache
import BoundaryLint.Main
import BoundaryLint.Source.Refusal
import BoundaryLint.Proofs.Text.Letter
import BoundaryLint.Proofs.Token.Writing
import BoundaryLint.Proofs.Grammar.Reading
import BoundaryLint.Proofs.Grammar.Phrase
import BoundaryLint.Proofs.Tree.Line
import BoundaryLint.Proofs.Grammar.PhraseReading
import BoundaryLint.Proofs.Grammar.FormReading
import BoundaryLint.Proofs.Source.Numeral
import BoundaryLint.Proofs.Source.Spelling
import BoundaryLint.Proofs.Grammar.TreeReading
import BoundaryLint.Proofs.Token.Spacing
import BoundaryLint.Proofs.Grammar.PhraseWriting
import BoundaryLint.Proofs.Grammar.RoundTrip
import BoundaryLint.Proofs.Grammar.Passage
import BoundaryLint.Proofs.Grammar.Precedence
import BoundaryLint.Proofs.Lint.Share
import BoundaryLint.Proofs.Lint.Isolation
import BoundaryLint.Proofs.Lint.Order
import BoundaryLint.Proofs.Boundary.Dependency
import BoundaryLint.Proofs.Boundary.Layering
import BoundaryLint.Proofs.Token.LineCount
import BoundaryLint.Proofs.Token.FaultLine
import BoundaryLint.Proofs.Grammar.FaultLine
import BoundaryLint.Proofs.Rule.Default
import BoundaryLint.Proofs.Lint.Completion
import BoundaryLint.Proofs.Grammar.Balance
import BoundaryLint.Proofs.Token.Rendering
import BoundaryLint.Proofs.Lint.IssueLine
import BoundaryLint.Proofs.Grammar.Layout
import BoundaryLint.Proofs.Lint.SharedCache
import BoundaryLint.Proofs.Lint.Mirroring
import BoundaryLint.Proofs.Lint.RuleSettings
import BoundaryLint.Proofs.Rule.OptionKind
import BoundaryLint.Proofs.Config.Complaint
import BoundaryLint.Proofs.Lint.Refusal
import BoundaryLint.Proofs.Rule.Configured
import BoundaryLint.Proofs.Lint.OptionCheck
import BoundaryLint.Proofs.Lint.ExitStatus
import BoundaryLint.Proofs.Boundary.Probing
import BoundaryLint.Proofs.Boundary.MissingDependency
import BoundaryLint.Proofs.Tree.Difference
import BoundaryLint.Proofs.Grammar.Closeness
import BoundaryLint.Proofs.Grammar.Exchange
import BoundaryLint.Proofs.Grammar.ListLiteral
import BoundaryLint.Proofs.Tree.Bare
import BoundaryLint.Proofs.Boundary.Directive
import BoundaryLint.Proofs.Rule.OptionBlind
import BoundaryLint.Proofs.Lint.ListedDeps
import BoundaryLint.Proofs.Tree.Place
import BoundaryLint.Proofs.Tree.Pruning
import BoundaryLint.Proofs.Rule.CallPlace
import BoundaryLint.Proofs.Rule.Injection
import BoundaryLint.Proofs.Path.Components
import BoundaryLint.Proofs.Path.ContextDirectory
import BoundaryLint.Proofs.Path.Relocation
import BoundaryLint.Proofs.Rule.Placement
import BoundaryLint.Proofs.Path.WordBoundary
import BoundaryLint.Proofs.Path.LongWords
import BoundaryLint.Proofs.Rule.OwnSchema
import BoundaryLint.Proofs.Boundary.LayerFile
import BoundaryLint.Proofs.Rule.TopLevel
import BoundaryLint.Proofs.Grammar.Lookahead
import BoundaryLint.Proofs.Grammar.Operand
import BoundaryLint.Proofs.Grammar.CallSpelling
import BoundaryLint.Proofs.Grammar.BodySpelling
import BoundaryLint.Proofs.Grammar.BlockOwner
import BoundaryLint.Proofs.Tree.Preorder
import BoundaryLint.Proofs.Token.Quotation
import BoundaryLint.Proofs.Token.SigilBody
import BoundaryLint.Proofs.Grammar.Section
import BoundaryLint.Proofs.Disk.KnownPath
import BoundaryLint.Proofs.Rule.OptionTyping
import BoundaryLint.Proofs.Pattern.DefaultLayer
import BoundaryLint.Proofs.Grammar.Progress
import BoundaryLint.Proofs.Grammar.NumberReading
import BoundaryLint.Proofs.Token.Iteration
import BoundaryLint.Proofs.Token.LiteralLoop
import BoundaryLint.Proofs.Token.Advance
