import ThreadLab.Base64
import ThreadLab.Binary64.Basic
import ThreadLab.Binary64.Nearest
import ThreadLab.Binary64.Shortest
import ThreadLab.Bytes
import ThreadLab.Clock
import ThreadLab.Duration
import ThreadLab.Fault
import ThreadLab.Ip.Address
import ThreadLab.Ip.Network
import ThreadLab.Ip.Reference
import ThreadLab.Ip.V4
import ThreadLab.Ip.V6.Basic
import ThreadLab.Ip.V6.Parser
import ThreadLab.Ip.V6.Printer
import ThreadLab.Json.Basic
import ThreadLab.Json.Equality
import ThreadLab.Json.Hash
import ThreadLab.Json.Parser
import ThreadLab.Json.Printer
import ThreadLab.Json.Text
import ThreadLab.Limit
import ThreadLab.LinkAddress
import ThreadLab.Listing.Addresses
import ThreadLab.Listing.Groups
import ThreadLab.Listing.NetworkData
import ThreadLab.NetworkRequest
import ThreadLab.Number
import ThreadLab.Packet.Filter
import ThreadLab.Packet.Header
import ThreadLab.Packet.Icmpv6Header
import ThreadLab.Packet.Ipv6Header
import ThreadLab.Packet.PrefixInformation
import ThreadLab.Packet.RouterAdvertisement
import ThreadLab.Packet.RouterHeader
import ThreadLab.Polling
import ThreadLab.Positional
import ThreadLab.Proofs.Base64
import ThreadLab.Proofs.Base64.Accepted
import ThreadLab.Proofs.Binary64.Monotone
import ThreadLab.Proofs.Binary64.Nearest
import ThreadLab.Proofs.Clock
import ThreadLab.Proofs.FirstMatch
import ThreadLab.Proofs.Ip.Address
import ThreadLab.Proofs.Ip.Form
import ThreadLab.Proofs.Ip.Network
import ThreadLab.Proofs.Ip.V4
import ThreadLab.Proofs.Ip.V6.Compress
import ThreadLab.Proofs.Ip.V6.Spelling
import ThreadLab.Proofs.Ip.V6.Text
import ThreadLab.Proofs.Json.Distinct
import ThreadLab.Proofs.Listing.Addresses
import ThreadLab.Proofs.Listing.Groups
import ThreadLab.Proofs.Packet.AdvertisedNetwork
import ThreadLab.Proofs.Packet.Advertisement
import ThreadLab.Proofs.Packet.Codec
import ThreadLab.Proofs.Packet.Filter
import ThreadLab.Proofs.Packet.Layout
import ThreadLab.Proofs.Packet.LengthDriven
import ThreadLab.Proofs.Packet.Places
import ThreadLab.Proofs.Packet.Scan
import ThreadLab.Proofs.Packet.Walk
import ThreadLab.Proofs.Polling
import ThreadLab.Proofs.Polling.LastingCondition
import ThreadLab.Proofs.Polling.LongerLimit
import ThreadLab.Proofs.Reader.Await
import ThreadLab.Proofs.Reader.Interleaving
import ThreadLab.Proofs.Reader.Lifecycle
import ThreadLab.Proofs.Reader.Machinery
import ThreadLab.Proofs.Reader.Poll
import ThreadLab.Proofs.Reader.Scene
import ThreadLab.Proofs.Reader.Shown
import ThreadLab.Proofs.Rows
import ThreadLab.Proofs.Service.Faults
import ThreadLab.Proofs.Service.RoundTrip
import ThreadLab.Proofs.Session.Act
import ThreadLab.Proofs.Session.Custody
import ThreadLab.Proofs.Session.Errand
import ThreadLab.Proofs.Session.FirstEvent
import ThreadLab.Proofs.Session.OfData
import ThreadLab.Proofs.Session.Quiet
import ThreadLab.Proofs.Session.Sparing
import ThreadLab.Proofs.Session.Watch
import ThreadLab.Proofs.Text.Integer
import ThreadLab.Proofs.Text.Join
import ThreadLab.Proofs.Text.Numeral
import ThreadLab.Proofs.Text.Utf8
import ThreadLab.Proofs.Trial.Cleanup
import ThreadLab.Proofs.Udp
import ThreadLab.Reader.Basic
import ThreadLab.Reader.Tap
import ThreadLab.Service.Criterion
import ThreadLab.Service.Equality
import ThreadLab.Service.Info
import ThreadLab.Session.Act
import ThreadLab.Session.Daemon
import ThreadLab.Session.Discovery
import ThreadLab.Session.Interface
import ThreadLab.Session.Lab
import ThreadLab.Session.Network
import ThreadLab.Session.Preparation
import ThreadLab.Session.Role
import ThreadLab.Settings
import ThreadLab.SystemFault
import ThreadLab.Text.Basic
import ThreadLab.Text.Blank
import ThreadLab.Text.DecimalDigit
import ThreadLab.Text.Integer
import ThreadLab.Text.Numeral
import ThreadLab.Text.Printable
import ThreadLab.Text.Quoted
import ThreadLab.Text.Search
import ThreadLab.Text.Split
import ThreadLab.Text.Utf8
import ThreadLab.Trial.Lifecycle
import ThreadLab.Trial.ServiceDiscovery
import ThreadLab.Udp
import ThreadLab.Vocabulary.Basic
import ThreadLab.Vocabulary.Connectivity
import ThreadLab.Vocabulary.DeviceRole
import ThreadLab.Vocabulary.Discovery
import ThreadLab.Vocabulary.Icmpv6Type
import ThreadLab.Vocabulary.Index
import ThreadLab.Vocabulary.NdOptionType
import ThreadLab.Proofs.Listing.Lines
import ThreadLab.Proofs.Trial.Join
import ThreadLab.Proofs.Trial.MeshLocal
import ThreadLab.Proofs.Listing.NetworkData
import ThreadLab.Proofs.Text.Integer.Spelling
import ThreadLab.Proofs.Json.Meaning
import ThreadLab.Proofs.Listing.Reading
import ThreadLab.Proofs.Packet.Bounds
import ThreadLab.Proofs.Service.Equality
