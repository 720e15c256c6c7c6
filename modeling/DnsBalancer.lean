import DnsBalancer.Address
import DnsBalancer.Address.Text
import DnsBalancer.Balancer.Clockwork
import DnsBalancer.Balancer.Control
import DnsBalancer.Balancer.Queries
import DnsBalancer.Balancer.State
import DnsBalancer.Check.Fault
import DnsBalancer.Check.Params
import DnsBalancer.Check.Probe
import DnsBalancer.Check.Spec
import DnsBalancer.ConfigError
import DnsBalancer.Database.Datum
import DnsBalancer.Database.Decode
import DnsBalancer.Database.File
import DnsBalancer.Database.Places
import DnsBalancer.DomainName
import DnsBalancer.Duration
import DnsBalancer.Duration.Setting
import DnsBalancer.Duration.Text
import DnsBalancer.Geo.Distance
import DnsBalancer.Geo.Sources
import DnsBalancer.Location.Subnet
import DnsBalancer.Location.Table
import DnsBalancer.Main
import DnsBalancer.Metrics.Collector
import DnsBalancer.Metrics.Exposition
import DnsBalancer.Metrics.Page
import DnsBalancer.Metrics.Series
import DnsBalancer.NameMap
import DnsBalancer.Probing.Cycle
import DnsBalancer.Probing.Flight
import DnsBalancer.Probing.Pace
import DnsBalancer.Probing.Rehearsal
import DnsBalancer.Probing.Retry
import DnsBalancer.Proofs.Address
import DnsBalancer.Proofs.Balancer.Answer
import DnsBalancer.Proofs.Balancer.Authority
import DnsBalancer.Proofs.Balancer.Books
import DnsBalancer.Proofs.Balancer.Cancellation
import DnsBalancer.Proofs.Balancer.Endpoints
import DnsBalancer.Proofs.Balancer.FailedReload
import DnsBalancer.Proofs.Balancer.Gauge
import DnsBalancer.Proofs.Balancer.History
import DnsBalancer.Proofs.Balancer.Idempotence
import DnsBalancer.Proofs.Balancer.Loops
import DnsBalancer.Proofs.Balancer.Moves
import DnsBalancer.Proofs.Balancer.Numbering
import DnsBalancer.Proofs.Balancer.Pacing
import DnsBalancer.Proofs.Balancer.Reload
import DnsBalancer.Proofs.Balancer.Scheduling
import DnsBalancer.Proofs.Balancer.StartUp
import DnsBalancer.Proofs.Balancer.Tokens
import DnsBalancer.Proofs.Balancer.Unreported
import DnsBalancer.Proofs.Balancer.Upkeep
import DnsBalancer.Proofs.Check.Equivalence
import DnsBalancer.Proofs.Check.Params
import DnsBalancer.Proofs.DomainName
import DnsBalancer.Proofs.DomainName.Labels
import DnsBalancer.Proofs.Duration
import DnsBalancer.Proofs.Duration.Numeral
import DnsBalancer.Proofs.Duration.RoundTrip
import DnsBalancer.Proofs.Duration.Terms
import DnsBalancer.Proofs.Duration.Words
import DnsBalancer.Proofs.Geo.Distance
import DnsBalancer.Proofs.Location.Lookup
import DnsBalancer.Proofs.Location.Membership
import DnsBalancer.Proofs.Location.Table
import DnsBalancer.Proofs.Metrics.Books
import DnsBalancer.Proofs.Metrics.Labels
import DnsBalancer.Proofs.Probing.Attempts
import DnsBalancer.Proofs.Probing.Flight
import DnsBalancer.Proofs.Probing.Pace
import DnsBalancer.Proofs.Probing.Rehearsal
import DnsBalancer.Proofs.Probing.Retry
import DnsBalancer.Proofs.Probing.Stagger
import DnsBalancer.Proofs.Probing.Steps
import DnsBalancer.Proofs.Probing.Verdict
import DnsBalancer.Proofs.Registry.Cycles
import DnsBalancer.Proofs.Registry.Definitions
import DnsBalancer.Proofs.Registry.Idempotence
import DnsBalancer.Proofs.Registry.Names
import DnsBalancer.Proofs.Registry.Overlap
import DnsBalancer.Proofs.Registry.Persistence
import DnsBalancer.Proofs.Registry.Record
import DnsBalancer.Proofs.Registry.Reload
import DnsBalancer.Proofs.Registry.Repetition
import DnsBalancer.Proofs.Registry.Rotation
import DnsBalancer.Proofs.Registry.Serving
import DnsBalancer.Proofs.Registry.StartUp
import DnsBalancer.Proofs.Registry.Turns
import DnsBalancer.Proofs.Registry.Unreported
import DnsBalancer.Proofs.Selection.Congruence
import DnsBalancer.Proofs.Selection.Eligible
import DnsBalancer.Proofs.Selection.Fastest
import DnsBalancer.Proofs.Selection.Indifference
import DnsBalancer.Proofs.Selection.Nearest
import DnsBalancer.Proofs.Selection.Policies
import DnsBalancer.Proofs.Selection.Rotation
import DnsBalancer.Proofs.Selection.Tiers
import DnsBalancer.Proofs.Selection.Wheel
import DnsBalancer.Proofs.Text.Decimal
import DnsBalancer.Proofs.Traversal
import DnsBalancer.Proofs.Watch.Bursts
import DnsBalancer.Proofs.Watch.Unattended
import DnsBalancer.Proofs.Yaml.Entries
import DnsBalancer.Proofs.Yaml.Fields
import DnsBalancer.Proofs.Yaml.Readings
import DnsBalancer.Proofs.Zone.Accepted
import DnsBalancer.Proofs.Zone.Faults
import DnsBalancer.Proofs.Zone.Profiles
import DnsBalancer.Proofs.Zone.Verdicts
import DnsBalancer.Registry.Backend
import DnsBalancer.Registry.Record
import DnsBalancer.Registry.Zones
import DnsBalancer.Selection.Geographic
import DnsBalancer.Selection.Mode
import DnsBalancer.Selection.Policies
import DnsBalancer.Selection.Request
import DnsBalancer.Selection.Selector
import DnsBalancer.Settings.Json
import DnsBalancer.Settings.Load
import DnsBalancer.Settings.Path
import DnsBalancer.Settings.Plain
import DnsBalancer.Settings.Setting
import DnsBalancer.StartUp
import DnsBalancer.Text.Binary64
import DnsBalancer.Text.Blank
import DnsBalancer.Text.CodePoints
import DnsBalancer.Text.Decimal
import DnsBalancer.Text.Hidden
import DnsBalancer.Text.Letters
import DnsBalancer.Text.Pattern
import DnsBalancer.Text.Pattern.Expr
import DnsBalancer.Text.Pattern.Members
import DnsBalancer.Text.Pattern.Property
import DnsBalancer.Text.Pattern.Reader
import DnsBalancer.Text.Quoted
import DnsBalancer.Text.Scientific
import DnsBalancer.Timestamp
import DnsBalancer.Watch.Burst
import DnsBalancer.Yaml.Cursor
import DnsBalancer.Yaml.Fields
import DnsBalancer.Yaml.Node
import DnsBalancer.Yaml.Node.OfTokens
import DnsBalancer.Yaml.Reader
import DnsBalancer.Yaml.Scalar
import DnsBalancer.Yaml.Token
import DnsBalancer.Yaml.Token.Directive
import DnsBalancer.Yaml.Token.Scalar
import DnsBalancer.Yaml.Token.Scan
import DnsBalancer.Yaml.Token.Tag
import DnsBalancer.Yaml.Value
import DnsBalancer.Zone.Definition
import DnsBalancer.Zone.Load
import DnsBalancer.Zone.Record
