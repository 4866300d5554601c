import GrammarSets.OrderedSet
import GrammarSets.Table
import GrammarSets.Symbol
import GrammarSets.Lookahead
import GrammarSets.Text.Blank
import GrammarSets.Token
import GrammarSets.Text.Cased
import GrammarSets.Text.LetterCase
import GrammarSets.Text.Lowercase
import GrammarSets.Text.Unprintable
import GrammarSets.Text.Quoted
import GrammarSets.Fault
import GrammarSets.Rule
import GrammarSets.Grammar
import GrammarSets.Record
import GrammarSets.First
import GrammarSets.Measure
import GrammarSets.Follow
import GrammarSets.Analysis
import GrammarSets.Report
import GrammarSets.Text.Lines
import GrammarSets.Source
import GrammarSets.Arguments
import GrammarSets.Folder
import GrammarSets.Help
import GrammarSets.Program
import GrammarSets.Main
import GrammarSets.Proofs.Derivation
import GrammarSets.Proofs.LeftCorner
import GrammarSets.Proofs.FirstWalk
import GrammarSets.Proofs.FirstSoundness
import GrammarSets.Proofs.FirstExactness
import GrammarSets.Proofs.FollowClosure
import GrammarSets.Proofs.FollowForms
import GrammarSets.Proofs.FirstWarnings
import GrammarSets.Proofs.Rendering
import GrammarSets.Proofs.RuleLines
import GrammarSets.Proofs.Reading
import GrammarSets.Proofs.PrintedGrammar
import GrammarSets.Proofs.Classification
import GrammarSets.Proofs.StopLine
import GrammarSets.Proofs.FollowRounds
import GrammarSets.Proofs.RuleOrder
import GrammarSets.Proofs.WellFormed
import GrammarSets.Proofs.Exposed
import GrammarSets.Proofs.Rows
import GrammarSets.Proofs.FirstDefined
import GrammarSets.Proofs.FirstLosses
import GrammarSets.Proofs.FollowSweep
import GrammarSets.Proofs.FirstReadings
import GrammarSets.Proofs.FollowTrace
import GrammarSets.Proofs.FirstCourse
import GrammarSets.Proofs.Renaming
import GrammarSets.Proofs.Embedding
import GrammarSets.Proofs.Extension
import GrammarSets.Proofs.RenamedSets
import GrammarSets.Proofs.TableLayout
import GrammarSets.Proofs.ReportReading
import GrammarSets.Proofs.FirstSequences
import GrammarSets.Proofs.LineEndings
import GrammarSets.Proofs.Vocabulary
