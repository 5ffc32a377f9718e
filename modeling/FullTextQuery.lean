import FullTextQuery.Host.FileTree
import FullTextQuery.Main
import FullTextQuery.Proofs.Brackets
import FullTextQuery.Proofs.Forest
import FullTextQuery.Proofs.Placement
import FullTextQuery.Proofs.PrefixRule
import FullTextQuery.Proofs.Lexing
import FullTextQuery.Proofs.Terms
import FullTextQuery.Proofs.Dangling
import FullTextQuery.Proofs.OperatorItems
import FullTextQuery.Proofs.Acceptance
import FullTextQuery.Proofs.Parts
import FullTextQuery.Proofs.Passing
import FullTextQuery.Proofs.Printing
import FullTextQuery.Proofs.Expression
import FullTextQuery.Proofs.NeatText
import FullTextQuery.Proofs.FixedText
import FullTextQuery.Proofs.Seams
import FullTextQuery.Proofs.TidyText
import FullTextQuery.Proofs.Reading
import FullTextQuery.Proofs.Translation
import FullTextQuery.Proofs.Conservation
import FullTextQuery.Proofs.SinglePrefix
import FullTextQuery.Proofs.BracketsKept
import FullTextQuery.Proofs.Connectives
import FullTextQuery.Proofs.Groups
import FullTextQuery.Proofs.Layout
import FullTextQuery.Proofs.TermShape
import FullTextQuery.Proofs.Grouping
import FullTextQuery.Proofs.Alphabet
import FullTextQuery.Proofs.AcceptedAgain
import FullTextQuery.Proofs.Sequences
import FullTextQuery.Proofs.Juxtaposition
import FullTextQuery.Proofs.FixedPoints
import FullTextQuery.Proofs.Rereading
import FullTextQuery.Proofs.LetterCase
import FullTextQuery.Proofs.QuotedSegments
import FullTextQuery.Proofs.LexicalText
import FullTextQuery.Proofs.Lines
import FullTextQuery.Proofs.StrayHyphens
import FullTextQuery.Proofs.BlankRuns
import FullTextQuery.Proofs.LoneBlanks
import FullTextQuery.Proofs.PhraseTerms
import FullTextQuery.Proofs.ChangedPhrases
import FullTextQuery.Proofs.WhiteSpace
import FullTextQuery.Proofs.Replay
import FullTextQuery.Proofs.LineFeeds
import FullTextQuery.Proofs.Batches
import FullTextQuery.Proofs.FileTrees
import FullTextQuery.Proofs.Invocations
import FullTextQuery.Proofs.StandardInput
import FullTextQuery.Proofs.KeptFiles
import FullTextQuery.Proofs.Levels
import FullTextQuery.Proofs.KeptOperators
import FullTextQuery.Proofs.SymbolSpacing
import FullTextQuery.Proofs.MaximalMunch
import FullTextQuery.Proofs.QuotedText
import FullTextQuery.Proofs.Explanations
import FullTextQuery.Proofs.LoweredText
import FullTextQuery.Proofs.SqueezedText
import FullTextQuery.Proofs.Loosening
import FullTextQuery.Proofs.NormalText
import FullTextQuery.Proofs.LooseHyphens
import FullTextQuery.Proofs.SharedBlanks
import FullTextQuery.Proofs.Matching
