import OperatorSource.Main
import OperatorSource.Session
import OperatorSource.Proofs.RequestAcceptance
import OperatorSource.Proofs.FlatSourceText
import OperatorSource.Proofs.NumberReading
import OperatorSource.Proofs.ShapeProgram
import OperatorSource.Proofs.ShapeProgramReading
import OperatorSource.Proofs.ShapeProgramScoping
import OperatorSource.Proofs.LineRun
import OperatorSource.Proofs.ShapeProgramEffect
import OperatorSource.Proofs.SourceTextInjective
import OperatorSource.Proofs.RulePolicies
import OperatorSource.Proofs.OctetOrder
import OperatorSource.Proofs.RegistryHistory
import OperatorSource.Proofs.Outcomes
import OperatorSource.Proofs.FileReplacement
import OperatorSource.Proofs.CommandEffects
import OperatorSource.Proofs.SpelledReading
import OperatorSource.Proofs.SpecificationSpelling
import OperatorSource.Proofs.BracketNesting
import OperatorSource.Proofs.FragmentNodes
import OperatorSource.Proofs.NestedLayout
import OperatorSource.Proofs.GenerationEvents
import OperatorSource.Proofs.SessionHistory
import OperatorSource.Proofs.SettingsRoundTrip
import OperatorSource.Proofs.FlatText
import OperatorSource.Proofs.FirstFaults
import OperatorSource.Proofs.RequestRefusal
import OperatorSource.Proofs.RuleLoading
import OperatorSource.Proofs.SectionLoading
import OperatorSource.Proofs.FragmentGrouping
import OperatorSource.Proofs.InventoryOrder
import OperatorSource.Proofs.PhysicalLines
import OperatorSource.Proofs.ComputeBody
import OperatorSource.Proofs.TrailingWhiteSpace
import OperatorSource.Proofs.RenderedLines
import OperatorSource.Proofs.LineCount
import OperatorSource.Proofs.DimensionReading
