import DaemonReply.Diagnostic.Console
import DaemonReply.EventLog
import DaemonReply.Proofs.Nesting
import DaemonReply.Proofs.TextRuns
import DaemonReply.Proofs.WrittenTag
import DaemonReply.Record.AccountManager
import DaemonReply.Record.AppVersion
import DaemonReply.Record.Transfer
import DaemonReply.Proofs.Forest
import DaemonReply.Proofs.Batch
import DaemonReply.Proofs.Decimal
import DaemonReply.Proofs.WrittenReply
import DaemonReply.Proofs.RoundTrip
import DaemonReply.Proofs.Actions
import DaemonReply.Proofs.Truncation
import DaemonReply.Proofs.OpenElements
import DaemonReply.Proofs.Concatenation
import DaemonReply.Proofs.LowerBound
import DaemonReply.Proofs.Paging
import DaemonReply.Proofs.UnknownMarkup
import DaemonReply.Proofs.Online
import DaemonReply.Proofs.LetterCase
import DaemonReply.Proofs.Lookup
import DaemonReply.Proofs.NestedBoundary
import DaemonReply.Proofs.FieldText
import DaemonReply.Proofs.Comments
import DaemonReply.Proofs.Calls
import DaemonReply.Proofs.Containers
import DaemonReply.Proofs.Accounting
import DaemonReply.Proofs.Frame
import DaemonReply.Proofs.Numerals
import DaemonReply.Proofs.Rounding
import DaemonReply.Proofs.WholeSeconds
import DaemonReply.Proofs.ByteCount
import DaemonReply.Proofs.Flags
