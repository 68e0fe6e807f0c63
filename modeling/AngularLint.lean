import AngularLint.Main
import AngularLint.Script.Reader
import AngularLint.Proofs.Dispatch
import AngularLint.Proofs.RuleTrace
import AngularLint.Proofs.EngineTrace
import AngularLint.Proofs.NonInterference
import AngularLint.Proofs.EditOrder
import AngularLint.Proofs.FixAcceptance
import AngularLint.Proofs.BuildLoop
import AngularLint.Proofs.NodeBuild
import AngularLint.Proofs.Places
import AngularLint.Proofs.CommentRemoval
import AngularLint.Proofs.NodeModel
import AngularLint.Proofs.ByteOffsets
import AngularLint.Proofs.NodeSpans
import AngularLint.Proofs.Outcomes
import AngularLint.Proofs.FindingOrigin
import AngularLint.Proofs.OrderedMaps
import AngularLint.Proofs.ReportSoundness
import AngularLint.Proofs.Utf8RoundTrip
import AngularLint.Proofs.FileWrite
import AngularLint.Proofs.RuleActs
import AngularLint.Proofs.PlainEdits
import AngularLint.Proofs.FixPasses
import AngularLint.Proofs.ClassWalk
import AngularLint.Proofs.NamedTables
import AngularLint.Proofs.Numerals
import AngularLint.Proofs.ClassFrames
import AngularLint.Proofs.SelectorText
import AngularLint.Proofs.Descendants
import AngularLint.Proofs.RuleAnswers
import AngularLint.Proofs.NodeAttributes
import AngularLint.Proofs.FaultFreedom
import AngularLint.Proofs.BatchResults
import AngularLint.Proofs.ExitStatus
import AngularLint.Proofs.Utf8Decoding
import AngularLint.Proofs.EditFrame
import AngularLint.Proofs.RepairFrame
import AngularLint.Proofs.FixConditions
import AngularLint.Proofs.AttributePrecedence
import AngularLint.Proofs.PathValues
import AngularLint.Proofs.Substitution
import AngularLint.Proofs.Reactions
import AngularLint.Proofs.Responses
import AngularLint.Proofs.ImportHistory
import AngularLint.Proofs.Decorations
import AngularLint.Proofs.DecoratedInputs
import AngularLint.Proofs.InjectedParameters
import AngularLint.Proofs.InjectingServices
import AngularLint.Proofs.PromiseSources
import AngularLint.Proofs.AliasCrossings
import AngularLint.Proofs.SelectorGrammar
import AngularLint.Proofs.LinePositions
import AngularLint.Proofs.Placeholders
import AngularLint.Proofs.ReboundImports
import AngularLint.Proofs.ServiceRepairs
import AngularLint.Proofs.SourceSlices
import AngularLint.Proofs.PathReading
import AngularLint.Proofs.SelectorFaults
import AngularLint.Proofs.CommaSearch
import AngularLint.Proofs.MemberDecorators
