import PolishNotation.Text.Alphabetic
import PolishNotation.Text.Numeric
import PolishNotation.Text.Blank
import PolishNotation.Operator
import PolishNotation.Symbol
import PolishNotation.TokenSequence
import PolishNotation.Fault
import PolishNotation.Decimal.Digits
import PolishNotation.Decimal.Integer
import PolishNotation.Decimal.Literal
import PolishNotation.Decimal.Binary64
import PolishNotation.Decimal.Shortest
import PolishNotation.Decimal.FloatText
import PolishNotation.Rational.Power
import PolishNotation.Rational.Text
import PolishNotation.Domain
import PolishNotation.Domain.Floating
import PolishNotation.Domain.Exact
import PolishNotation.Domain.Spelling
import PolishNotation.StackMachine
import PolishNotation.Conversion
import PolishNotation.Derivation
import PolishNotation.Session
import PolishNotation.Report
import PolishNotation.Sink
import PolishNotation.Printing
import PolishNotation.CommandLine
import PolishNotation.Main
import PolishNotation.ExpressionTree
import PolishNotation.Proofs.DomainLaws
import PolishNotation.Proofs.TreeScan
import PolishNotation.Proofs.NotationAgreement
import PolishNotation.Proofs.TopDownSplit
import PolishNotation.Proofs.Chain
import PolishNotation.Proofs.InfixValue
import PolishNotation.Proofs.DerivationCoherence
import PolishNotation.Proofs.Noise
import PolishNotation.Proofs.DisciplinedTree
import PolishNotation.Proofs.RationalWidth
import PolishNotation.Proofs.RationalPower
import PolishNotation.Proofs.BitBudget
import PolishNotation.Proofs.FaultPosition
import PolishNotation.Proofs.DigitTree
import PolishNotation.Proofs.InfixOutcome
import PolishNotation.Proofs.BalancedInfix
import PolishNotation.Proofs.Lockstep
import PolishNotation.Proofs.StructuralFaults
import PolishNotation.Proofs.InfixCounts
import PolishNotation.Proofs.SessionHistory
import PolishNotation.Proofs.PowerSize
import PolishNotation.Proofs.PowerOutcome
import PolishNotation.Proofs.UniqueReading
import PolishNotation.Proofs.PrefixDescent
import PolishNotation.Proofs.FaithfulRewriting
import PolishNotation.Proofs.Composition
import PolishNotation.Proofs.PowerAssociativity
import PolishNotation.Proofs.TokenConservation
import PolishNotation.Proofs.RationalText
import PolishNotation.Proofs.OperatorStack
import PolishNotation.Proofs.Printing
import PolishNotation.Proofs.ReportLines
