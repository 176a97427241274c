import RmwZzdds.Library.Transition
import RmwZzdds.Library.Ledger
import RmwZzdds.Library.Table
import RmwZzdds.Library.Bytes
import RmwZzdds.Library.ByteStream
import RmwZzdds.Library.Xcdr1
import RmwZzdds.Return
import RmwZzdds.Event.Status
import RmwZzdds.Event.Endpoint
import RmwZzdds.Event.Interleaving
import RmwZzdds.Event.Conservation
import RmwZzdds.Event.Counting
import RmwZzdds.Event.Initialization
import RmwZzdds.Event.Zzdds
import RmwZzdds.Event.EventCount
import RmwZzdds.Event.Notification
import RmwZzdds.Event.Callback
import RmwZzdds.Event.Liveliness
import RmwZzdds.Serialization
import RmwZzdds.Service.Wire
import RmwZzdds.Service.Message
import RmwZzdds.Service.Topic
import RmwZzdds.Service.Interleaving
import RmwZzdds.Service.Correlation
import RmwZzdds.Codec.Zidl
import RmwZzdds.Codec.Idl
import RmwZzdds.Codec.Cpp
import RmwZzdds.Codec.RoundTrip
import RmwZzdds.Codec.Xcdr1
import RmwZzdds.Codec.Agreement
import RmwZzdds.Library.Ownership
import RmwZzdds.Lifecycle.Context
import RmwZzdds.Lifecycle.Entity
import RmwZzdds.Lifecycle.Endpoint
import RmwZzdds.Lifecycle.GraphChannel
import RmwZzdds.Lifecycle.Initialization
import RmwZzdds.Graph.Names
import RmwZzdds.Service.Availability
import RmwZzdds.Wait.WaitSet
import RmwZzdds.Wait.Trigger
import RmwZzdds.Graph.Cache
import RmwZzdds.Graph.Discovery
import RmwZzdds.Graph.Consistency
import RmwZzdds.Graph.Discovered
import RmwZzdds.Graph.Participants
import RmwZzdds.Codec.TypeSupport
import RmwZzdds.DataPlane.Take
import RmwZzdds.DataPlane.Agreement
import RmwZzdds.DataPlane.Locality
import RmwZzdds.DataPlane.Loan
import RmwZzdds.DataPlane.Delivery
import RmwZzdds.DataPlane.LoanOwnership
import RmwZzdds.DataPlane.Sequence
import RmwZzdds.DataPlane.Departure
import RmwZzdds.DataPlane.RawLoan
import RmwZzdds.Wait.Call
import RmwZzdds.Wait.Partition
import RmwZzdds.Library.Inventory
import RmwZzdds.Lifecycle.ServiceEntity
import RmwZzdds.Lifecycle.ChannelRegistry
import RmwZzdds.Lifecycle.Finalization
import RmwZzdds.Lifecycle.Beginning
import RmwZzdds.Lifecycle.Session
import RmwZzdds.Lifecycle.Exactness
import RmwZzdds.Lifecycle.Refusals
import RmwZzdds.Graph.Signals
import RmwZzdds.Library.Following
import RmwZzdds.Service.Frame
import RmwZzdds.DataPlane.ActualQos
import RmwZzdds.Service.NameAcceptance
import RmwZzdds.Graph.TypeNames
import RmwZzdds.Graph.ServiceListing
import RmwZzdds.Codec.FilterField
import RmwZzdds.Library.PrefixCode
import RmwZzdds.Codec.KeyHash
import RmwZzdds.Codec.Soundness
import RmwZzdds.Registration.Books
import RmwZzdds.Registration.Node
import RmwZzdds.Registration.Endpoint
import RmwZzdds.Library.Index
import RmwZzdds.Registration.Destruction
import RmwZzdds.Registration.Listing
import RmwZzdds.DataPlane.Acknowledgment
import RmwZzdds.Graph.AllServices
import RmwZzdds.Library.Estate
import RmwZzdds.Lifecycle.Estate
import RmwZzdds.Lifecycle.Ending
import RmwZzdds.Library.Progress
import RmwZzdds.Wait.Progress
import RmwZzdds.Graph.Listener
import RmwZzdds.Graph.Stopping
import RmwZzdds.Graph.Listening
import RmwZzdds.DataPlane.Publish
import RmwZzdds.DataPlane.Transmission
import RmwZzdds.Service.Served
import RmwZzdds.DataPlane.ContentFilter
import RmwZzdds.Graph.Announcement
import RmwZzdds.Graph.Domain
