import IrcHarness.Config.Basic
import IrcHarness.Config.Duration
import IrcHarness.Config.Load
import IrcHarness.History.Record
import IrcHarness.History.Timestamp
import IrcHarness.Json.Fields
import IrcHarness.Json.Printer
import IrcHarness.Json.Reader
import IrcHarness.Json.Value
import IrcHarness.Message.Basic
import IrcHarness.Message.Error
import IrcHarness.Message.Parser
import IrcHarness.Message.Printer
import IrcHarness.Message.Source
import IrcHarness.Message.TagValue
import IrcHarness.Numeric.Binary64
import IrcHarness.Pattern.Basic
import IrcHarness.Pattern.Check
import IrcHarness.Pattern.Message
import IrcHarness.Pattern.Printer
import IrcHarness.Proofs.Message.Equality
import IrcHarness.Proofs.Message.Faithful
import IrcHarness.Proofs.Message.Parameters
import IrcHarness.Proofs.Message.RoundTrip
import IrcHarness.Proofs.Message.Sections
import IrcHarness.Proofs.Message.TagSection
import IrcHarness.Proofs.Message.Writable
import IrcHarness.Proofs.Transport.Framing
import IrcHarness.Proofs.Transport.Lines
import IrcHarness.Proofs.Transport.Reach
import IrcHarness.Proofs.Transport.Stream
import IrcHarness.Proofs.Transport.Synchronization
import IrcHarness.Regex.Basic
import IrcHarness.Regex.ByteRow
import IrcHarness.Regex.ClassReader
import IrcHarness.Regex.Extent
import IrcHarness.Regex.Form
import IrcHarness.Regex.Full
import IrcHarness.Regex.Meaning
import IrcHarness.Regex.Reader
import IrcHarness.Regex.Search
import IrcHarness.Regex.Tree
import IrcHarness.Text.Ascii
import IrcHarness.Text.CharSet
import IrcHarness.Text.Digit
import IrcHarness.Text.Quoted
import IrcHarness.Text.Split
import IrcHarness.Text.Utf8
import IrcHarness.Toml.Document
import IrcHarness.Toml.Reader
import IrcHarness.Toml.Scalar
import IrcHarness.Toml.Value
import IrcHarness.Transport.Basic
import IrcHarness.Transport.Collect
import IrcHarness.Transport.Error
import IrcHarness.Transport.Framing
import IrcHarness.Transport.Line
import IrcHarness.Transport.Peer
import IrcHarness.Transport.Token
import IrcHarness.Unicode.Age
import IrcHarness.Unicode.Boundary
import IrcHarness.Unicode.CaseChange
import IrcHarness.Unicode.Category
import IrcHarness.Unicode.Folding
import IrcHarness.Unicode.Later
import IrcHarness.Unicode.Lookup
import IrcHarness.Unicode.Property
import IrcHarness.Unicode.Script
import IrcHarness.Proofs.Transport.Atomicity
import IrcHarness.Proofs.Transport.Conservation
import IrcHarness.Proofs.Transport.Readings
import IrcHarness.Proofs.Transport.Reports
import IrcHarness.Proofs.Transport.Requests
import IrcHarness.Proofs.Transport.Exactness
import IrcHarness.Proofs.Message.Grammar
import IrcHarness.Proofs.Message.Acceptance
import IrcHarness.Proofs.Pattern.Semantics
import IrcHarness.Proofs.Pattern.Localization
import IrcHarness.Proofs.Transport.Closing
import IrcHarness.Proofs.Transport.Backlog
import IrcHarness.Proofs.Transport.Delivery
import IrcHarness.Proofs.Transport.Hangup
import IrcHarness.Proofs.Transport.Sending
import IrcHarness.Proofs.Transport.Modes
import IrcHarness.Proofs.Regex.Search
import IrcHarness.Proofs.Regex.Remainder
import IrcHarness.Proofs.Regex.Tokens
import IrcHarness.Proofs.Regex.Closing.Escapes
import IrcHarness.Proofs.Regex.Closing.Classes
import IrcHarness.Proofs.Regex.Closing.Sequences
import IrcHarness.Proofs.Regex.FullMatch
import IrcHarness.Proofs.History.Copies
import IrcHarness.Proofs.Transport.Tokens
import IrcHarness.Proofs.Transport.Searching
import IrcHarness.Proofs.Transport.Markers
import IrcHarness.Proofs.Transport.Attempts
import IrcHarness.Proofs.Transport.Unsynchronized
import IrcHarness.Proofs.Transport.Decoding
import IrcHarness.Proofs.Pattern.Weakening
import IrcHarness.Proofs.Pattern.MessageFields
import IrcHarness.Proofs.Pattern.Building
import IrcHarness.Proofs.Pattern.Refinement
import IrcHarness.Proofs.Json.Equality
import IrcHarness.Proofs.Message.Equivalence
import IrcHarness.Proofs.Pattern.Lifting
import IrcHarness.Proofs.Pattern.MessageValue
import IrcHarness.Proofs.Message.TagOrder
import IrcHarness.Proofs.Text.Encoding
import IrcHarness.Proofs.Transport.CleanLines
import IrcHarness.Proofs.History.Reduction
import IrcHarness.Proofs.History.Playback
import IrcHarness.Proofs.Message.Masks
import IrcHarness.Proofs.Config.Timeout
import IrcHarness.Proofs.Text.Digits
import IrcHarness.Proofs.Config.Address
import IrcHarness.Proofs.History.Renderings
import IrcHarness.Proofs.Message.TagEscapes
import IrcHarness.Proofs.Message.Spelling
