import Concordance.Power
import Concordance.Binary64
import Concordance.Decimal.Shortest
import Concordance.Decimal.Layout
import Concordance.Decimal.Fixed
import Concordance.Decimal.Reading
import Concordance.Text.Blank
import Concordance.Text.Ranges
import Concordance.Text.Digit
import Concordance.Text.Word
import Concordance.Text.Printable
import Concordance.Text.CaseFold
import Concordance.Text.Utf8
import Concordance.Text.Quoted
import Concordance.Digest.Sha256
import Concordance.Random.ChaCha
import Concordance.Random.Draw
import Concordance.Random.Interval
import Concordance.Data.Datum
import Concordance.Json.Printer
import Concordance.Json.Token
import Concordance.Json.Reader
import Concordance.Yaml.Scalar
import Concordance.Yaml.Node
import Concordance.Yaml.Cursor
import Concordance.Yaml.Quote
import Concordance.Yaml.Token
import Concordance.Yaml.Reader
import Concordance.Yaml.Printer
import Concordance.Data.Source
import Concordance.Data.Document
import Concordance.Domain.Parameter
import Concordance.Domain.Value
import Concordance.Domain.Boundary
import Concordance.Domain.Validity
import Concordance.Domain.Description
import Concordance.Case.Sampling
import Concordance.Case.Generator
import Concordance.Case.Cursor
import Concordance.Tolerance.OutputKind
import Concordance.Tolerance.Profile
import Concordance.Pattern.Class
import Concordance.Pattern.Basic
import Concordance.Pattern.Program
import Concordance.Pattern.Search
import Concordance.Pattern.Reader
import Concordance.Pattern.Dialect
import Concordance.Run.Outcome
import Concordance.Compare.Extractor
import Concordance.Compare.Numbers
import Concordance.Compare.Deviation
import Concordance.Compare.Comparison
import Concordance.Compare.Comparator
import Concordance.Statistics.Wilson
import Concordance.Statistics.KolmogorovSmirnov
import Concordance.Report.Basic
import Concordance.Report.Certify
import Concordance.Report.Document
import Concordance.Report.Markdown
import Concordance.Report.Format
import Concordance.Run.Error
import Concordance.Validation.Config
import Concordance.Validation.Error
import Concordance.Shell.Syntax
import Concordance.Shell.Reader
import Concordance.Shell.Arithmetic
import Concordance.Shell.Printf
import Concordance.Shell.State
import Concordance.Shell.Builtin
import Concordance.Shell.Evaluation
import Concordance.Run.Token
import Concordance.Run.Limits
import Concordance.Run.Call
import Concordance.Run.Child
import Concordance.Run.Supervision
import Concordance.Run.Execution
import Concordance.Run.CommandLine
import Concordance.Shell.Launch
import Concordance.Run.Artifact
import Concordance.Run.Pair
import Concordance.Run.Executor
import Concordance.Validation.Validator
import Concordance.Run.Stub
import Concordance.Proofs.Comparing
import Concordance.Proofs.Settlement
import Concordance.Proofs.Sorting
import Concordance.Proofs.Interleaving.Basic
import Concordance.Proofs.Interleaving.Clock
import Concordance.Proofs.Interleaving.Cause
import Concordance.Proofs.Interleaving.InTurn
import Concordance.Proofs.Interleaving.Records
import Concordance.Proofs.Interleaving.Transfer
import Concordance.Proofs.Interleaving.Completion
import Concordance.Proofs.Interleaving.Abort
import Concordance.Proofs.Interleaving.Refusal
import Concordance.Proofs.Interleaving.Exposure
import Concordance.Proofs.Interleaving.Aftermath
import Concordance.Proofs.Interleaving.Usable
import Concordance.Proofs.Interleaving.Lowest
import Concordance.Proofs.Binary64.Order
import Concordance.Proofs.Binary64.Arithmetic
import Concordance.Proofs.Binary64.Rounding
import Concordance.Proofs.Binary64.Identity
import Concordance.Proofs.Acceptance
import Concordance.Proofs.Options
import Concordance.Proofs.Certification
import Concordance.Proofs.Likeness
import Concordance.Proofs.SelfParity
import Concordance.Proofs.Binary64.TotalOrder
import Concordance.Proofs.Binary64.Magnitude
import Concordance.Proofs.PairByPair
import Concordance.Proofs.LargestGap
import Concordance.Proofs.ScoreBound
import Concordance.Proofs.Draws
import Concordance.Proofs.CaseSequence
import Concordance.Proofs.Sampleable
import Concordance.Proofs.InRange
import Concordance.Proofs.ArrivalOrder
import Concordance.Proofs.Loosening
import Concordance.Proofs.Sessions
import Concordance.Proofs.ScoreEquation
import Concordance.Proofs.RecordShape
import Concordance.Proofs.SourceData
import Concordance.Proofs.DescriptionRoundTrip
import Concordance.Proofs.Binary64.Overflow
import Concordance.Proofs.ShortestDecimal
import Concordance.Proofs.JsonNumber
import Concordance.Proofs.ReportText
import Concordance.Proofs.DeviationRange
import Concordance.Proofs.Binary64.Distance
import Concordance.Proofs.SampleInvariance
import Concordance.Proofs.SampleSize
import Concordance.Proofs.ReportShape
import Concordance.Proofs.Binary64.Units
import Concordance.Proofs.Binary64.Faithful
import Concordance.Proofs.MiddleInRange
import Concordance.Proofs.FiniteValues
import Concordance.Proofs.BoundaryWalk
import Concordance.Proofs.FirstFault
import Concordance.Proofs.CursorRuns
import Concordance.Proofs.ValueReadBack
import Concordance.Proofs.OuterBlanks
import Concordance.Proofs.NumberLists
import Concordance.Proofs.SourceScalars
import Concordance.Proofs.OptionsRoundTrip
import Concordance.Proofs.DividingCharacters
import Concordance.Proofs.CertificateLines
import Concordance.Proofs.OmittedFailures
import Concordance.Proofs.FailureRows
import Concordance.Proofs.FunctionCalls
import Concordance.Proofs.SupervisedCalls
import Concordance.Proofs.StoppedCalls
import Concordance.Proofs.TokenFamilies
import Concordance.Proofs.LongestPart
