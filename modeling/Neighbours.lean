import Neighbours.Action
import Neighbours.App
import Neighbours.Arrival
import Neighbours.Arrival.Answer
import Neighbours.Arrival.Recognition
import Neighbours.Ascending
import Neighbours.Engine
import Neighbours.Frame.Access
import Neighbours.Frame.ArpPacket
import Neighbours.Frame.Checksum
import Neighbours.Frame.DiscoveryOption
import Neighbours.Frame.DiscoveryPacket
import Neighbours.Frame.Ethernet
import Neighbours.Frame.Ipv6Packet
import Neighbours.Frame.Tag
import Neighbours.FrameClass
import Neighbours.Interception
import Neighbours.Interface
import Neighbours.Ip
import Neighbours.Json.Reader
import Neighbours.Json.Value
import Neighbours.Json.Writer
import Neighbours.Mac
import Neighbours.Machine
import Neighbours.Machine.Run
import Neighbours.Message
import Neighbours.Numeral
import Neighbours.Octets
import Neighbours.Operation
import Neighbours.Point
import Neighbours.Registration
import Neighbours.Registration.Description
import Neighbours.Registry
import Neighbours.Report
import Neighbours.Settings
import Neighbours.Settings.File
import Neighbours.Stats
import Neighbours.Text.Cut
import Neighbours.Text.Invisible
import Neighbours.Text.Quoted
import Neighbours.Toml.Moment
import Neighbours.Toml.Node
import Neighbours.Toml.Number
import Neighbours.Toml.Quoted
import Neighbours.Toml.Reader
import Neighbours.ValueFault
import Neighbours.Vlan
import Neighbours.WireForm
import Neighbours.Proofs.Commands
import Neighbours.Proofs.Consistency
import Neighbours.Proofs.Ledger
import Neighbours.Proofs.Frame.Reading
import Neighbours.Proofs.Frame.Discovery
import Neighbours.Proofs.Frame.Tagging
import Neighbours.Proofs.Frame.Retagging
import Neighbours.Proofs.Frame.Encoding
import Neighbours.Proofs.Frame.Writing
import Neighbours.Proofs.Frame.OnesComplement
import Neighbours.Proofs.Recognition
import Neighbours.Proofs.Answer
import Neighbours.Proofs.AnswerChecksum
import Neighbours.Proofs.AnswerOctets
import Neighbours.Proofs.Grouping
import Neighbours.Proofs.Order
import Neighbours.Proofs.Outline
import Neighbours.Proofs.Numbering
import Neighbours.Proofs.Tracing
import Neighbours.Proofs.Tally
import Neighbours.Proofs.Delivery
import Neighbours.Proofs.Emission
import Neighbours.Proofs.Calm
import Neighbours.Proofs.Containment
import Neighbours.Proofs.Transparency
import Neighbours.Proofs.Reports
import Neighbours.Proofs.Veil
import Neighbours.Proofs.Confinement
import Neighbours.Proofs.Past
import Neighbours.Proofs.Routine
import Neighbours.Proofs.Rounds
import Neighbours.Proofs.Interchange
import Neighbours.Proofs.Seclusion
import Neighbours.Proofs.Counters
import Neighbours.Proofs.Conservation
import Neighbours.Proofs.Later
import Neighbours.Proofs.Reset
import Neighbours.Proofs.Linear
import Neighbours.Proofs.JsonText
import Neighbours.Proofs.MacForms
import Neighbours.Proofs.WireForms
import Neighbours.Proofs.Reconfiguration
import Neighbours.Proofs.Priorities
import Neighbours.Proofs.Bounds
import Neighbours.Proofs.Padding
import Neighbours.Proofs.Flooding
import Neighbours.Proofs.Decimals
import Neighbours.Proofs.PointText
import Neighbours.Proofs.Admission
import Neighbours.Proofs.Duplicates
import Neighbours.Proofs.Presentation
import Neighbours.Proofs.Stripping
import Neighbours.Proofs.Storage
import Neighbours.Proofs.VlanText
