import SenderAudit.Address.Ipv4
import SenderAudit.Address.Ipv6
import SenderAudit.Audit
import SenderAudit.CommandLine.Options
import SenderAudit.CommandLine.Rows
import SenderAudit.CommandLine.Run
import SenderAudit.CommandLine.Saving
import SenderAudit.Dkim.Key
import SenderAudit.Dkim.Probe
import SenderAudit.Dmarc.Check
import SenderAudit.Dmarc.Policy
import SenderAudit.Doh.Client
import SenderAudit.Doh.Reply
import SenderAudit.DomainName
import SenderAudit.Idna.CodePoints
import SenderAudit.Idna.CompositionTable
import SenderAudit.Idna.Direction
import SenderAudit.Idna.DirectionTable
import SenderAudit.Idna.Joining
import SenderAudit.Idna.JoiningTable
import SenderAudit.Idna.Mapping
import SenderAudit.Idna.MappingRows
import SenderAudit.Idna.Normalization
import SenderAudit.Idna.Punycode
import SenderAudit.Idna.ToAscii
import SenderAudit.Json.Token
import SenderAudit.Json.Tree
import SenderAudit.Json.Value
import SenderAudit.Lookup.Failure
import SenderAudit.Lookup.Mx
import SenderAudit.Lookup.RecordType
import SenderAudit.Lookup.Resolver
import SenderAudit.Lookup.Txt
import SenderAudit.Main
import SenderAudit.Reporting.Encoding
import SenderAudit.Scorecard.Advice
import SenderAudit.Scorecard.Evidence
import SenderAudit.Scorecard.Points
import SenderAudit.Spf.Evaluation
import SenderAudit.Spf.Outcome
import SenderAudit.Spf.Parser
import SenderAudit.Spf.Qualifier
import SenderAudit.Spf.Record
import SenderAudit.Spf.Term
import SenderAudit.Text.Blank
import SenderAudit.Text.Decimal
import SenderAudit.Text.Fields
import SenderAudit.Text.Hexadecimal
import SenderAudit.Text.Tags
import SenderAudit.Text.Utf8
import SenderAudit.Url.Address
import SenderAudit.Url.Encoding
import SenderAudit.Url.Host
import SenderAudit.Proofs.CanonicalName
import SenderAudit.Proofs.Spf.Tree
import SenderAudit.Proofs.Spf.Visit
import SenderAudit.Proofs.Spf.Budget
import SenderAudit.Proofs.Spf.LooserLimits
import SenderAudit.Proofs.Spf.Undelayed
import SenderAudit.Proofs.Spf.Unfolding
import SenderAudit.Proofs.Spf.Validity
import SenderAudit.Proofs.Spf.ChildRuns
import SenderAudit.Proofs.Spf.Course
import SenderAudit.Proofs.Spf.RecordTree
import SenderAudit.Proofs.Spf.Findings
import SenderAudit.Proofs.Spf.Deadlines
import SenderAudit.Proofs.LookupPoints
import SenderAudit.Proofs.Spf.LookupLog
import SenderAudit.Proofs.Spf.Cycles
import SenderAudit.Proofs.ChildName
import SenderAudit.Proofs.AuditLookups
import SenderAudit.Proofs.StoredSelectors
import SenderAudit.Proofs.KeyProbes
import SenderAudit.Proofs.PresentationForm
import SenderAudit.Proofs.Spf.TermForms
import SenderAudit.Proofs.Spf.Acceptance
import SenderAudit.Proofs.Spf.TermAccount
import SenderAudit.Proofs.Spf.Targets
import SenderAudit.Proofs.Reports
import SenderAudit.Proofs.Points
import SenderAudit.Proofs.ReportScores
import SenderAudit.Proofs.UnrelatedTexts
import SenderAudit.Proofs.CanonicalReport
import SenderAudit.Proofs.Dkim.VersionTags
import SenderAudit.Proofs.Dkim.SplitKeys
import SenderAudit.Proofs.Json.Strings
import SenderAudit.Proofs.Spf.Spellings
import SenderAudit.Proofs.Json.Words
import SenderAudit.Proofs.Json.RoundTrip
import SenderAudit.Proofs.CommandLine.Table
import SenderAudit.Proofs.CommandLine.Formats
import SenderAudit.Proofs.CommandLine.Saving
import SenderAudit.Proofs.CommandLine.Outputs
import SenderAudit.Proofs.Dkim.KeySizes
import SenderAudit.Proofs.Dmarc.RecordCounts
import SenderAudit.Proofs.TagValues
import SenderAudit.Proofs.Dmarc.TagOrder
import SenderAudit.Proofs.NetworkCase
import SenderAudit.Proofs.WrittenNumbers
import SenderAudit.Proofs.Versions
import SenderAudit.Proofs.Dmarc.Outcomes
import SenderAudit.Proofs.Dkim.Outcomes
import SenderAudit.Proofs.Spf.Versions
import SenderAudit.Proofs.NameCase
import SenderAudit.Proofs.Spf.LetterCase
import SenderAudit.Proofs.MailExchangers
import SenderAudit.Proofs.Doh.Replies
import SenderAudit.Proofs.KeyPoints
import SenderAudit.Proofs.SelectorOrder
import SenderAudit.Proofs.CommandLine.Arguments
import SenderAudit.Proofs.CommandLine.InputLines
import SenderAudit.Proofs.CommandLine.SavedFiles
