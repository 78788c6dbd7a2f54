/-
The interlocking of a model railway: segments, routes, sensors and accessories,
the operations on them, and the ways in which they are reached and stored.
-/
import Interlocking.Accessory
import Interlocking.Approach
import Interlocking.Broker.Topic
import Interlocking.CommandStation
import Interlocking.Desk
import Interlocking.Enumeration
import Interlocking.Fields.Basic
import Interlocking.Fields.Codec
import Interlocking.Ident
import Interlocking.Json.Document
import Interlocking.Json.Form
import Interlocking.Json.Numeral
import Interlocking.Json.Print
import Interlocking.Json.Record
import Interlocking.Json.Rounding
import Interlocking.Json.Token
import Interlocking.Json.Tree
import Interlocking.Layout.Archive
import Interlocking.Layout.Basic
import Interlocking.Layout.Call
import Interlocking.Layout.Claim
import Interlocking.Layout.Registration
import Interlocking.Layout.Selection
import Interlocking.Lock
import Interlocking.Occupancy
import Interlocking.Orientation
import Interlocking.Proofs.Accessory
import Interlocking.Proofs.CommandStation
import Interlocking.Proofs.Cutting
import Interlocking.Proofs.Fields
import Interlocking.Proofs.Json.Document
import Interlocking.Proofs.Json.Forms
import Interlocking.Proofs.Json.Records
import Interlocking.Proofs.Json.Tokens
import Interlocking.Proofs.Layout.Adding
import Interlocking.Proofs.Layout.Attaching
import Interlocking.Proofs.Layout.Configuring
import Interlocking.Proofs.Layout.Declining
import Interlocking.Proofs.Layout.DeletedLocos
import Interlocking.Proofs.Layout.HeldAccessories
import Interlocking.Proofs.Layout.History
import Interlocking.Proofs.Layout.Loading
import Interlocking.Proofs.Layout.LoadingOrder
import Interlocking.Proofs.Layout.Locking
import Interlocking.Proofs.Layout.LongestUnused
import Interlocking.Proofs.Layout.Naming
import Interlocking.Proofs.Layout.Notices
import Interlocking.Proofs.Layout.Overwriting
import Interlocking.Proofs.Layout.Pictures
import Interlocking.Proofs.Layout.Reachable
import Interlocking.Proofs.Layout.References
import Interlocking.Proofs.Layout.Refusal
import Interlocking.Proofs.Layout.Reports
import Interlocking.Proofs.Layout.Reselection
import Interlocking.Proofs.Layout.Reservation
import Interlocking.Proofs.Layout.Restoring
import Interlocking.Proofs.Layout.RouteCycle
import Interlocking.Proofs.Layout.RouteExclusion
import Interlocking.Proofs.Layout.RouteLists
import Interlocking.Proofs.Layout.RouteLocking
import Interlocking.Proofs.Layout.RouteOffer
import Interlocking.Proofs.Layout.RouteRegistry
import Interlocking.Proofs.Layout.RouteRelease
import Interlocking.Proofs.Layout.RouteReservation
import Interlocking.Proofs.Layout.RouteSelection
import Interlocking.Proofs.Layout.Saving
import Interlocking.Proofs.Layout.Selection
import Interlocking.Proofs.Layout.SensorOwnership
import Interlocking.Proofs.Layout.Stamps
import Interlocking.Proofs.Layout.Step
import Interlocking.Proofs.Layout.Undoing
import Interlocking.Proofs.Layout.Updating
import Interlocking.Proofs.Layout.Wiring
import Interlocking.Proofs.Lock
import Interlocking.Proofs.LockingAlike
import Interlocking.Proofs.Mirroring
import Interlocking.Proofs.Numerals
import Interlocking.Proofs.Opening
import Interlocking.Proofs.Segment.DiscoveryOrder
import Interlocking.Proofs.Segment.Exclusion
import Interlocking.Proofs.Segment.Invariant
import Interlocking.Proofs.Segment.Notices
import Interlocking.Proofs.Segment.PendingRelease
import Interlocking.Proofs.Segment.Reports
import Interlocking.Proofs.Segment.Reservation
import Interlocking.Proofs.Segment.Routes
import Interlocking.Proofs.Segment.Sensors
import Interlocking.Proofs.Segment.ShownOccupancy
import Interlocking.Proofs.Segment.Step
import Interlocking.Proofs.Store
import Interlocking.Proofs.Topics
import Interlocking.Proofs.Web.Requests
import Interlocking.Proofs.Wire
import Interlocking.Registry
import Interlocking.Route
import Interlocking.Segment.Basic
import Interlocking.Segment.Call
import Interlocking.Sensor
import Interlocking.Settings
import Interlocking.Store.Any
import Interlocking.Store.Basic
import Interlocking.Store.Call
import Interlocking.Store.File
import Interlocking.Store.Memory
import Interlocking.Text.Blank
import Interlocking.Text.Bounded
import Interlocking.Text.Decimal
import Interlocking.Text.Split
import Interlocking.Web.Endpoint
import Interlocking.Web.Escape
import Interlocking.Web.MediaType
import Interlocking.Web.Message
import Interlocking.Web.Service
import Interlocking.Wire.Objects
import Interlocking.Wire.Status
