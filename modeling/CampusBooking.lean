import CampusBooking.Text.Blank
import CampusBooking.Text.Digits
import CampusBooking.Text.Hidden
import CampusBooking.Calendar.Date
import CampusBooking.Calendar.Reading
import CampusBooking.Fault
import CampusBooking.Campus
import CampusBooking.Identity
import CampusBooking.Timeslot
import CampusBooking.Uuid
import CampusBooking.Booking
import CampusBooking.Json.Value
import CampusBooking.Json.Double
import CampusBooking.Json.Fault
import CampusBooking.Json.Reader
import CampusBooking.Json.Shape
import CampusBooking.Json.Write
import CampusBooking.Wire.Fields
import CampusBooking.Wire.Request
import CampusBooking.Wire.NetFault
import CampusBooking.Wire.Datagram
import CampusBooking.Wire.Registry
import CampusBooking.Wire.Response
import CampusBooking.Store.Ledger
import CampusBooking.Store.Basic
import CampusBooking.Mesh.Tally
import CampusBooking.Mesh.Cluster
import CampusBooking.Mesh.Node
import CampusBooking.Config.Toml
import CampusBooking.Config.Basic
import CampusBooking.Network.Address
import CampusBooking.Network.Basic
import CampusBooking.Registry.Directory
import CampusBooking.Registry.Client
import CampusBooking.Mesh.Peers
import CampusBooking.Mesh.Server
import CampusBooking.Proofs.Keyed
import CampusBooking.Proofs.Ledger
import CampusBooking.Proofs.Store.Views
import CampusBooking.Proofs.Store.Operations
import CampusBooking.Proofs.Store.LedgerHistory
import CampusBooking.Proofs.Store.RoomHistory
import CampusBooking.Proofs.Store.Invariant
import CampusBooking.Proofs.Cluster.Run
import CampusBooking.Proofs.Cluster.Handlers
import CampusBooking.Proofs.Cluster.Reachable
import CampusBooking.Proofs.Cluster.Refusal
import CampusBooking.Proofs.Cluster.Views
import CampusBooking.Proofs.Cluster.Rebooking
import CampusBooking.Proofs.Cluster.Tally
import CampusBooking.Proofs.Cluster.Quota
import CampusBooking.Proofs.Cluster.Admission
import CampusBooking.Proofs.Cluster.Race
import CampusBooking.Proofs.Cluster.Routing
import CampusBooking.Proofs.Cluster.Frame
import CampusBooking.Proofs.Calendar.Civil
import CampusBooking.Proofs.Json.Reads
import CampusBooking.Proofs.Json.Scalars
import CampusBooking.Proofs.Json.Shapes
import CampusBooking.Proofs.Wire.Datagrams
import CampusBooking.Proofs.Wire.Grammar
import CampusBooking.Proofs.Cluster.Nesting
import CampusBooking.Proofs.Cluster.Availability
import CampusBooking.Proofs.Registry.History
import CampusBooking.Proofs.Registry.PeerCache
import CampusBooking.Proofs.Wire.Replies
import CampusBooking.Proofs.Registry.Rejoining
