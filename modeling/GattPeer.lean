import GattPeer.Text.Blank
import GattPeer.Text.Quoted
import GattPeer.Text.Upper
import GattPeer.Decimal.Shortest
import GattPeer.Value.Written
import GattPeer.Value.Bytes
import GattPeer.Value.Key
import GattPeer.Failure.Family
import GattPeer.Uuid.RoundTrip
import GattPeer.DeviceAddress
import GattPeer.Handle
import GattPeer.Characteristic
import GattPeer.AttributeTable
import GattPeer.StateMonitor
import GattPeer.Advertisement
import GattPeer.Device
import GattPeer.Session
import GattPeer.Session.Run
import GattPeer.Proofs.Ranges.Cover
import GattPeer.Proofs.StateMonitor.Settled
import GattPeer.Proofs.StateMonitor.Wakeup
import GattPeer.Proofs.Device.Replay
import GattPeer.Proofs.Session.Passing
import GattPeer.Proofs.Session.Transports
import GattPeer.Proofs.Session.Moves
import GattPeer.Proofs.Device.Waiting
import GattPeer.Proofs.Session.Pending
import GattPeer.Proofs.Device.Resolution
import GattPeer.Proofs.Session.Discovery
import GattPeer.Proofs.Device.Stages
import GattPeer.Proofs.Device.Malformed
import GattPeer.Proofs.Device.LastValues
import GattPeer.Proofs.Device.Knowledge
import GattPeer.Proofs.Device.Sighted
import GattPeer.Proofs.Session.Signals
import GattPeer.Proofs.Session.Subscription
import GattPeer.Proofs.Session.Matches
import GattPeer.Proofs.Session.Listening
import GattPeer.Proofs.Ranges.Distinct
import GattPeer.Proofs.AttributeTable.Latest
import GattPeer.Proofs.FallibleSort.Comparable
import GattPeer.Proofs.Device.Wrapped
import GattPeer.Proofs.Session.Routes
import GattPeer.Proofs.Device.Companions
import GattPeer.Proofs.Device.Heeding
import GattPeer.Proofs.Session.Alongside
import GattPeer.Proofs.Session.Abreast
import GattPeer.Proofs.Session.ArrivalOrder
import GattPeer.Proofs.Session.Silence
import GattPeer.Proofs.Session.Paring
import GattPeer.Proofs.Session.ParingTransports
import GattPeer.Proofs.Session.Connecting
import GattPeer.Proofs.Session.Disregarded
import GattPeer.Proofs.AttributeTable.FirstCome
import GattPeer.Proofs.Session.Departures
import GattPeer.Proofs.Session.LifeCycle
import GattPeer.Proofs.Session.Registrations
import GattPeer.Proofs.Session.Correspondence
import GattPeer.Proofs.Session.EitherSink
import GattPeer.Proofs.Session.Dispatch
import GattPeer.Proofs.Device.Numbered
import GattPeer.Proofs.Session.Deadlines
import GattPeer.Proofs.AttributeTable.Grounded
import GattPeer.Proofs.Device.Grounded
import GattPeer.Proofs.Session.Supporting
import GattPeer.Proofs.Session.Addressing
import GattPeer.Proofs.Handle.Written
import GattPeer.Proofs.ObjectPath.Segments
import GattPeer.Proofs.AttributeTable.Search
import GattPeer.Proofs.Session.Registered
import GattPeer.Proofs.Session.TransportMap
import GattPeer.Proofs.Session.Watched
import GattPeer.Proofs.Session.Requests
import GattPeer.Proofs.Session.ByType
import GattPeer.Proofs.ObjectPath.Namespace
import GattPeer.Proofs.DeviceAddress.RoundTrip
import GattPeer.Proofs.Decode.Flattened
import GattPeer.Proofs.Decode.Layers
import GattPeer.Proofs.Device.Layers
import GattPeer.Proofs.Session.OwnPath
import GattPeer.Proofs.Session.Windows
import GattPeer.Proofs.Ranges.Succession
import GattPeer.Proofs.AttributeTable.Spelling
import GattPeer.Proofs.Characteristic.Comparison
