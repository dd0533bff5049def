import RecipientRewriting.Address.Basic
import RecipientRewriting.Address.Mailbox
import RecipientRewriting.Audit
import RecipientRewriting.Charset.Basic
import RecipientRewriting.Charset.Big5
import RecipientRewriting.Charset.EastAsian
import RecipientRewriting.Charset.Gb18030
import RecipientRewriting.Charset.Jis
import RecipientRewriting.Charset.Korean
import RecipientRewriting.Charset.Label
import RecipientRewriting.Charset.SingleOctet
import RecipientRewriting.Charset.Unicode
import RecipientRewriting.CommandLine
import RecipientRewriting.Configuration
import RecipientRewriting.Decision
import RecipientRewriting.Dsn
import RecipientRewriting.Engine
import RecipientRewriting.Formats
import RecipientRewriting.Forwarding
import RecipientRewriting.Locality
import RecipientRewriting.Mail.Basic
import RecipientRewriting.Mail.Header
import RecipientRewriting.Mail.HeaderText
import RecipientRewriting.Mail.Name
import RecipientRewriting.Mail.TransferEncoding
import RecipientRewriting.Main
import RecipientRewriting.Notation.Format
import RecipientRewriting.Notation.Lexical
import RecipientRewriting.Notation.Member
import RecipientRewriting.Notation.Reader
import RecipientRewriting.Notation.Writer
import RecipientRewriting.OrderedMap
import RecipientRewriting.Pattern.Basic
import RecipientRewriting.Pattern.Normal
import RecipientRewriting.Pattern.OctetRange
import RecipientRewriting.Pattern.Program
import RecipientRewriting.Pattern.Reader
import RecipientRewriting.Pattern.Search
import RecipientRewriting.Pattern.Size
import RecipientRewriting.Pattern.Tree
import RecipientRewriting.Processing.Basic
import RecipientRewriting.Processing.Forwards
import RecipientRewriting.Processing.Pass
import RecipientRewriting.Processing.Rewriting
import RecipientRewriting.Processing.Run
import RecipientRewriting.Proofs.Address.Casing
import RecipientRewriting.Proofs.Address.Grammar
import RecipientRewriting.Proofs.Address.Joining
import RecipientRewriting.Proofs.Address.Language
import RecipientRewriting.Proofs.Address.Literals
import RecipientRewriting.Proofs.Address.Reading
import RecipientRewriting.Proofs.Address.RoundTrip
import RecipientRewriting.Proofs.Address.Spellings
import RecipientRewriting.Proofs.Aggregate
import RecipientRewriting.Proofs.Audit
import RecipientRewriting.Proofs.Dsn.HandOn
import RecipientRewriting.Proofs.Dsn.Inheritance
import RecipientRewriting.Proofs.Engine.History
import RecipientRewriting.Proofs.Forwarding.Carrying
import RecipientRewriting.Proofs.Forwarding.Ghosting
import RecipientRewriting.Proofs.Forwarding.Hop
import RecipientRewriting.Proofs.Forwarding.Ledger
import RecipientRewriting.Proofs.Forwarding.Lineage
import RecipientRewriting.Proofs.Forwarding.Lookup
import RecipientRewriting.Proofs.Forwarding.Pipeline
import RecipientRewriting.Proofs.Forwarding.Removal
import RecipientRewriting.Proofs.Forwarding.Returns
import RecipientRewriting.Proofs.Forwarding.Transports
import RecipientRewriting.Proofs.Notation.Conversion
import RecipientRewriting.Proofs.Notation.Lists
import RecipientRewriting.Proofs.Notation.Maps
import RecipientRewriting.Proofs.Notation.Quoted
import RecipientRewriting.Proofs.Notation.Records
import RecipientRewriting.Proofs.OrderedMap
import RecipientRewriting.Proofs.Partition
import RecipientRewriting.Proofs.Partition.Order
import RecipientRewriting.Proofs.Processing.Accounting
import RecipientRewriting.Proofs.Processing.Answers
import RecipientRewriting.Proofs.Processing.Asking
import RecipientRewriting.Proofs.Processing.Atomicity
import RecipientRewriting.Proofs.Processing.Attempts
import RecipientRewriting.Proofs.Processing.Completion
import RecipientRewriting.Proofs.Processing.Copies
import RecipientRewriting.Proofs.Processing.Course
import RecipientRewriting.Proofs.Processing.Deciding
import RecipientRewriting.Proofs.Processing.DefaultDomain
import RecipientRewriting.Proofs.Processing.Determined
import RecipientRewriting.Proofs.Processing.Disjointness
import RecipientRewriting.Proofs.Processing.Ensures
import RecipientRewriting.Proofs.Processing.Fates
import RecipientRewriting.Proofs.Processing.FinalTargets
import RecipientRewriting.Proofs.Processing.Findings
import RecipientRewriting.Proofs.Processing.Frame
import RecipientRewriting.Proofs.Processing.Handling
import RecipientRewriting.Proofs.Processing.Idempotence
import RecipientRewriting.Proofs.Processing.Order
import RecipientRewriting.Proofs.Processing.Phases
import RecipientRewriting.Proofs.Processing.Questions
import RecipientRewriting.Proofs.Processing.Recall
import RecipientRewriting.Proofs.Processing.Renaming
import RecipientRewriting.Proofs.Processing.Repetition
import RecipientRewriting.Proofs.Processing.Settling
import RecipientRewriting.Proofs.Processing.Stages
import RecipientRewriting.Proofs.Processing.Unrequested
import RecipientRewriting.Proofs.Processing.Yields
import RecipientRewriting.Proofs.Resolution.Acceptance
import RecipientRewriting.Proofs.Resolution.Answer
import RecipientRewriting.Proofs.Resolution.Finality
import RecipientRewriting.Proofs.Resolution.Heeding
import RecipientRewriting.Proofs.Resolution.Limit
import RecipientRewriting.Proofs.Resolution.Relocation
import RecipientRewriting.Proofs.Resolution.Targets
import RecipientRewriting.Proofs.Resolution.Walk
import RecipientRewriting.Proofs.Rule.Sources
import RecipientRewriting.Proofs.Rule.Writing
import RecipientRewriting.Proofs.RuleTable.Contents
import RecipientRewriting.Proofs.RuleTable.Editing
import RecipientRewriting.Proofs.Success
import RecipientRewriting.Proofs.Text.Trimming
import RecipientRewriting.Proofs.Transport.Accepting
import RecipientRewriting.Proofs.UniqueList
import RecipientRewriting.Rule.Basic
import RecipientRewriting.Rule.Kind
import RecipientRewriting.Rule.Source
import RecipientRewriting.RuleTable.Basic
import RecipientRewriting.RuleTable.Resolve
import RecipientRewriting.Text.Basic
import RecipientRewriting.Text.Quoted
import RecipientRewriting.Transport
import RecipientRewriting.Unicode.Age
import RecipientRewriting.Unicode.Boundary
import RecipientRewriting.Unicode.CaseFolding
import RecipientRewriting.Unicode.CodeSet
import RecipientRewriting.Unicode.GeneralCategory
import RecipientRewriting.Unicode.Property
import RecipientRewriting.Unicode.Query
import RecipientRewriting.Unicode.Script
import RecipientRewriting.UniqueList
