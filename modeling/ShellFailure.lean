import ShellFailure.Main
import ShellFailure.Proofs.Boundary
import ShellFailure.Proofs.Command.Exit
import ShellFailure.Proofs.Command.Message
import ShellFailure.Proofs.Escapes
import ShellFailure.Proofs.Exception.Built
import ShellFailure.Proofs.Exception.FrameEquiv
import ShellFailure.Proofs.Frame.Shown
import ShellFailure.Proofs.Literal.Canonical
import ShellFailure.Proofs.Literal.FirstError
import ShellFailure.Proofs.Literal.Grammar
import ShellFailure.Proofs.Literal.Layout
import ShellFailure.Proofs.Literal.Lines
import ShellFailure.Proofs.Literal.Pieces
import ShellFailure.Proofs.Literal.RoundTrip
import ShellFailure.Proofs.Literal.Segmentation
import ShellFailure.Proofs.Literal.SingleQuotes
import ShellFailure.Proofs.Literal.Spans
import ShellFailure.Proofs.Literal.Tiling
import ShellFailure.Proofs.Pipeline.Execution
import ShellFailure.Proofs.Pipeline.Schedule
import ShellFailure.Proofs.Quote
import ShellFailure.Proofs.Shell.Arguments
import ShellFailure.Proofs.Shell.CommandWord
import ShellFailure.Proofs.Shell.History
import ShellFailure.Proofs.Shell.LastLiteral
import ShellFailure.Proofs.Shell.MadeUp
import ShellFailure.Proofs.Shell.Places
import ShellFailure.Proofs.Shell.Reporting
import ShellFailure.Proofs.Shell.Script
import ShellFailure.Proofs.Shell.Stages
import ShellFailure.Proofs.Text.Lines
import ShellFailure.Proofs.Text.Numeral
import ShellFailure.Proofs.Traceback
import ShellFailure.Proofs.Uncolored
