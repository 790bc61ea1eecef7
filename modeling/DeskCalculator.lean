import DeskCalculator.Calculator.Workbench
import DeskCalculator.Expression.Grammar
import DeskCalculator.History.TwoStacks
import DeskCalculator.Json.Basic
import DeskCalculator.Main
import DeskCalculator.Proofs.Expression.Conversion
import DeskCalculator.Proofs.Expression.Lexing
import DeskCalculator.Proofs.Expression.Placement
import DeskCalculator.Proofs.Expression.Reordering
import DeskCalculator.Proofs.Expression.Acceptance
import DeskCalculator.Proofs.Expression.Refusal
import DeskCalculator.Proofs.History.Cursor
import DeskCalculator.Proofs.Session.Steps
import DeskCalculator.Proofs.Session.Coherence
import DeskCalculator.Proofs.Session.Replay
import DeskCalculator.Proofs.Omission
import DeskCalculator.Proofs.Session.Moves
import DeskCalculator.Proofs.Web.Forwarding
import DeskCalculator.Proofs.Web.Refinement
import DeskCalculator.Proofs.Web.Effects
import DeskCalculator.Proofs.Expression.Rereading
import DeskCalculator.Proofs.Expression.Substitution
import DeskCalculator.Proofs.Expression.Calculation
import DeskCalculator.Proofs.Expression.Rearrangement
import DeskCalculator.Proofs.Expression.Nesting
import DeskCalculator.Proofs.Expression.Unwrapping
import DeskCalculator.Proofs.Expression.Scanning
import DeskCalculator.Proofs.History.Refinement
import DeskCalculator.Proofs.Session.Paths
import DeskCalculator.Proofs.Text.Digits
import DeskCalculator.Proofs.Timestamp.Dates
import DeskCalculator.Proofs.Timestamp.Order
import DeskCalculator.Proofs.Session.Chronology
import DeskCalculator.Proofs.Expression.Cutting
import DeskCalculator.Proofs.Calculator.Slots
import DeskCalculator.Proofs.Expression.Printing
import DeskCalculator.Proofs.Number.Double
import DeskCalculator.Proofs.Number.Grid
import DeskCalculator.Proofs.Expression.Literals
import DeskCalculator.Proofs.Web.Origins
import DeskCalculator.Proofs.Expression.Stacking
import DeskCalculator.Proofs.Setup.Items
import DeskCalculator.Proofs.Setup.Numerals
