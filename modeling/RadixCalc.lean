import RadixCalc.Main
import RadixCalc.Proofs.Grammar.Reading
import RadixCalc.Proofs.Grammar.Negation
import RadixCalc.Proofs.Interpretation
import RadixCalc.Proofs.Calculator.History
import RadixCalc.Proofs.Calculator.Coherence
import RadixCalc.Proofs.Calculator.OutputBase
import RadixCalc.Proofs.Calculator.Replay
import RadixCalc.Proofs.Calculation.Conversion
import RadixCalc.Proofs.Calculation.Failure
import RadixCalc.Proofs.Calculation.OpenGroup
import RadixCalc.Proofs.Evaluation.Surplus
import RadixCalc.Proofs.Sequence.Grouping
import RadixCalc.Proofs.Calculator.Suspension
import RadixCalc.Proofs.Calculation.Objection
import RadixCalc.Proofs.Sequence.Shelving
import RadixCalc.Proofs.Evaluation.CallDepth
import RadixCalc.Proofs.CommandLine.FrontEnds
import RadixCalc.Proofs.Calculation.Numerals
import RadixCalc.Proofs.Numeral.ReadBack
import RadixCalc.Proofs.Evaluation.Resolution
import RadixCalc.Proofs.Numeral.WrittenForm
import RadixCalc.Proofs.Evaluation.Footprint
import RadixCalc.Proofs.Sequence.Assignment
import RadixCalc.Proofs.Sequence.StrayBracket
import RadixCalc.Proofs.Sequence.Account
import RadixCalc.Proofs.Bracket.Closing
import RadixCalc.Proofs.Sequence.UnclosedCall
import RadixCalc.Proofs.Sequence.Spacing
import RadixCalc.Proofs.Sequence.WellFormed
