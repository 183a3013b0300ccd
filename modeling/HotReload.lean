import HotReload.Builder
import HotReload.Bus
import HotReload.Client
import HotReload.Commons
import HotReload.Connection
import HotReload.Decimal.Digits
import HotReload.Decimal.Shortest
import HotReload.Endpoint
import HotReload.Envelope
import HotReload.Error
import HotReload.Idna.Domain
import HotReload.Idna.Mapping
import HotReload.Idna.Punycode
import HotReload.Json.Error
import HotReload.Json.Printer
import HotReload.Json.Reader
import HotReload.Json.Scan
import HotReload.Json.Skip
import HotReload.Json.Typed
import HotReload.Json.Value
import HotReload.Notice
import HotReload.Options
import HotReload.Page
import HotReload.Payload
import HotReload.Proofs.Abort
import HotReload.Proofs.Absolute
import HotReload.Proofs.Admission
import HotReload.Proofs.Attempt
import HotReload.Proofs.Beside
import HotReload.Proofs.Callbacks
import HotReload.Proofs.Cause
import HotReload.Proofs.Chronicle
import HotReload.Proofs.Compact
import HotReload.Proofs.Counterpart
import HotReload.Proofs.Course
import HotReload.Proofs.Delivery
import HotReload.Proofs.Departure
import HotReload.Proofs.Discipline
import HotReload.Proofs.Dotted
import HotReload.Proofs.Echo
import HotReload.Proofs.Extent
import HotReload.Proofs.Fanout
import HotReload.Proofs.Fields
import HotReload.Proofs.Foreign
import HotReload.Proofs.Glimpse
import HotReload.Proofs.Grammar
import HotReload.Proofs.Groups
import HotReload.Proofs.Hosts
import HotReload.Proofs.Idle
import HotReload.Proofs.Joint
import HotReload.Proofs.Language
import HotReload.Proofs.Leeway
import HotReload.Proofs.Lifecycle
import HotReload.Proofs.Linked
import HotReload.Proofs.Location
import HotReload.Proofs.Lookup
import HotReload.Proofs.Manager
import HotReload.Proofs.Meaning
import HotReload.Proofs.Numerals
import HotReload.Proofs.Numeric
import HotReload.Proofs.Obedience
import HotReload.Proofs.Onlookers
import HotReload.Proofs.Onward
import HotReload.Proofs.Origin
import HotReload.Proofs.Outbound
import HotReload.Proofs.Outcome
import HotReload.Proofs.Passage
import HotReload.Proofs.Past
import HotReload.Proofs.Place
import HotReload.Proofs.Reconnect
import HotReload.Proofs.Recorder
import HotReload.Proofs.Reentry
import HotReload.Proofs.Reference
import HotReload.Proofs.Refinement
import HotReload.Proofs.Refusal
import HotReload.Proofs.Regular
import HotReload.Proofs.Relative
import HotReload.Proofs.Resolution
import HotReload.Proofs.Rest
import HotReload.Proofs.Round
import HotReload.Proofs.Roundtrip
import HotReload.Proofs.Run
import HotReload.Proofs.Scene
import HotReload.Proofs.SchemeText
import HotReload.Proofs.Sending
import HotReload.Proofs.Session
import HotReload.Proofs.Settings
import HotReload.Proofs.Settled
import HotReload.Proofs.Sharing
import HotReload.Proofs.Silent
import HotReload.Proofs.Spelling
import HotReload.Proofs.Steady
import HotReload.Proofs.Step
import HotReload.Proofs.Storage
import HotReload.Proofs.Tagged
import HotReload.Proofs.Tally
import HotReload.Proofs.Thread
import HotReload.Proofs.Tokens
import HotReload.Proofs.Trace
import HotReload.Proofs.Traffic
import HotReload.Proofs.Transition
import HotReload.Proofs.Trees
import HotReload.Proofs.Turn
import HotReload.Proofs.Typed
import HotReload.Proofs.Undivided
import HotReload.Signal
import HotReload.Socket.Address
import HotReload.Socket.Machine
import HotReload.Socket.Network
import HotReload.Stage
import HotReload.Text.Quoted
import HotReload.Text.Split
import HotReload.Text.Utf8
import HotReload.Transport
import HotReload.Unicode.CombiningClass
import HotReload.Unicode.Composition
import HotReload.Unicode.Direction
import HotReload.Unicode.Joining
import HotReload.Unicode.Mark
import HotReload.Unicode.Normalization
import HotReload.Unicode.Printable
import HotReload.Unicode.Table
import HotReload.Url.Host
import HotReload.Url.Ipv4
import HotReload.Url.Ipv6
import HotReload.Url.Parser
import HotReload.Url.Percent
