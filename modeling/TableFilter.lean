import TableFilter.Main
import TableFilter.Proofs.CommandLine.Condition
import TableFilter.Proofs.Config.Precedence
import TableFilter.Proofs.Filter.Equality
import TableFilter.Proofs.Filter.Gate
import TableFilter.Proofs.Filter.History
import TableFilter.Proofs.Filter.Limits
import TableFilter.Proofs.Filter.TransportForm
import TableFilter.Proofs.KeywordScan
import TableFilter.Proofs.Operator.Payload
import TableFilter.Proofs.Preview.Agreement
import TableFilter.Proofs.Preview.Comparison
import TableFilter.Proofs.Preview.Demands
import TableFilter.Proofs.Preview.LetterCase
import TableFilter.Proofs.Preview.Membership
import TableFilter.Proofs.Preview.Unknown
import TableFilter.Proofs.Preview.Verbatim
import TableFilter.Proofs.Sql.Anchor
import TableFilter.Proofs.Sql.Capture
import TableFilter.Proofs.Sql.Escape
import TableFilter.Proofs.Sql.Part
import TableFilter.Proofs.Sql.Pattern
import TableFilter.Proofs.Sql.Textless
