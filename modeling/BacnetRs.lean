import BacnetRs.Library.Ascending
import BacnetRs.Library.Attempt
import BacnetRs.Library.Extent
import BacnetRs.Library.FirstMatch
import BacnetRs.Library.Floating
import BacnetRs.Library.KeyedTable
import BacnetRs.Library.Machine
import BacnetRs.Library.Numerals
import BacnetRs.Library.Octets
import BacnetRs.Library.ShiftRegister
import BacnetRs.Library.ShortestPaths
import BacnetRs.Library.Since
import BacnetRs.Library.Slots
import BacnetRs.Library.StableSort
import BacnetRs.Library.Steady
import BacnetRs.Library.Tagged
import BacnetRs.Library.Text
import BacnetRs.Library.Utf16
import BacnetRs.Library.Utf8
import BacnetRs.Library.Words
import BacnetRs.Encoding.Appending
import BacnetRs.Encoding.CharacterSets
import BacnetRs.Encoding.Consumption
import BacnetRs.Encoding.Encodable
import BacnetRs.Encoding.EncodingStream
import BacnetRs.Encoding.ErrorEncoder
import BacnetRs.Encoding.FieldCodec
import BacnetRs.Encoding.Integers
import BacnetRs.Encoding.Primitive
import BacnetRs.Encoding.PrimitiveCodec
import BacnetRs.Encoding.Steadiness
import BacnetRs.Encoding.Stream
import BacnetRs.Encoding.Tag
import BacnetRs.Encoding.TagCodec
import BacnetRs.Object.Agreement
import BacnetRs.Object.Alarm
import BacnetRs.Object.Analog
import BacnetRs.Object.Arrays
import BacnetRs.Object.Binary
import BacnetRs.Object.Calendar
import BacnetRs.Object.Command
import BacnetRs.Object.Common
import BacnetRs.Object.Database
import BacnetRs.Object.Datatypes
import BacnetRs.Object.Device
import BacnetRs.Object.Effects
import BacnetRs.Object.FileAccess
import BacnetRs.Object.Hosted
import BacnetRs.Object.Identifier
import BacnetRs.Object.Indices
import BacnetRs.Object.Intrinsic
import BacnetRs.Object.MultiState
import BacnetRs.Object.Point
import BacnetRs.Object.PointTypes
import BacnetRs.Object.Precedence
import BacnetRs.Object.RecordAccess
import BacnetRs.Object.Schedule
import BacnetRs.Object.Store
import BacnetRs.Object.Timetable
import BacnetRs.Object.Trait
import BacnetRs.Property.Complex
import BacnetRs.Property.ComplexCodec
import BacnetRs.Property.Contents
import BacnetRs.Property.Datatype
import BacnetRs.Property.Encode
import BacnetRs.Property.Recurrence
import BacnetRs.Property.Value
import BacnetRs.Property.ValueCodec
import BacnetRs.Service.AcknowledgeAlarm
import BacnetRs.Service.AlarmCodec
import BacnetRs.Service.Announcement
import BacnetRs.Service.AtomicFile
import BacnetRs.Service.Balance
import BacnetRs.Service.Choice
import BacnetRs.Service.CovCodec
import BacnetRs.Service.CovNotification
import BacnetRs.Service.EventNotification
import BacnetRs.Service.Nesting
import BacnetRs.Service.ReadProperty
import BacnetRs.Service.ReadResponse
import BacnetRs.Service.RequestCodec
import BacnetRs.Service.ResultCodec
import BacnetRs.Service.SubscribeCov
import BacnetRs.Service.SubscriptionCodec
import BacnetRs.Service.TimeSynchronization
import BacnetRs.Service.Truncation
import BacnetRs.Service.Values
import BacnetRs.Service.WriteProperty
import BacnetRs.Network.Bvlc
import BacnetRs.Network.DataLink
import BacnetRs.Network.Ethernet
import BacnetRs.Network.ForeignDevices
import BacnetRs.Network.Host
import BacnetRs.Network.Mstp
import BacnetRs.Network.MstpDamage
import BacnetRs.Network.Npdu
import BacnetRs.Network.NpduCodec
import BacnetRs.Network.Paths
import BacnetRs.Network.RouterManager
import BacnetRs.Network.Security
import BacnetRs.Network.ShortestPath
import BacnetRs.Transport.Broadcast
import BacnetRs.Transport.Bvll
import BacnetRs.Transport.Registration
import BacnetRs.Transport.Timeouts
import BacnetRs.App.Apdu
import BacnetRs.App.ApduCodec
import BacnetRs.App.Decoders
import BacnetRs.App.InvokeIds
import BacnetRs.App.PriorityQueue
import BacnetRs.App.TransactionManager
import BacnetRs.Client.AddressCache
import BacnetRs.Client.CovRouting
import BacnetRs.Client.Endpoint
import BacnetRs.Client.Frame
import BacnetRs.Client.Moves
import BacnetRs.Client.Outbound
import BacnetRs.Client.Position
import BacnetRs.Client.Progress
import BacnetRs.Client.Quarantine
import BacnetRs.Client.Reassembly
import BacnetRs.Client.Roles
import BacnetRs.Client.SplitRequest
import BacnetRs.Client.Steps
import BacnetRs.Client.Transaction
import BacnetRs.Client.Transactions
import BacnetRs.Client.Waits
import BacnetRs.Client.World
import BacnetRs.Cov.Capacity
import BacnetRs.Cov.Engine
import BacnetRs.Cov.Subscriptions
import BacnetRs.Cov.Unchanged
import BacnetRs.Event.Dwell
import BacnetRs.Event.Engine
import BacnetRs.Event.Hysteresis
import BacnetRs.Schedule.Agreement
import BacnetRs.Schedule.Engine
import BacnetRs.Schedule.Run
import BacnetRs.Server.Acknowledging
import BacnetRs.Server.ActiveSubscriptions
import BacnetRs.Server.Announcing
import BacnetRs.Server.Baselines
import BacnetRs.Server.Bip
import BacnetRs.Server.Dispatcher
import BacnetRs.Server.Echoing
import BacnetRs.Server.Elements
import BacnetRs.Server.Interleaving
import BacnetRs.Server.Lifetimes
import BacnetRs.Server.Notifier
import BacnetRs.Server.ObjectService
import BacnetRs.Server.Polling
import BacnetRs.Server.ReadBack
import BacnetRs.Server.Reading
import BacnetRs.Server.Reporting
import BacnetRs.Server.Requesters
import BacnetRs.Server.Router
import BacnetRs.Server.RouterDevices
import BacnetRs.Server.Routing
import BacnetRs.Server.Serving
import BacnetRs.Server.Settling
import BacnetRs.Server.Subscribing
import BacnetRs.Server.Transactions
import BacnetRs.Server.Writing
import BacnetRs.Device.Receivers
import BacnetRs.Device.Roles
import BacnetRs.Util.CircularBuffer
import BacnetRs.Util.DebugFormat
import BacnetRs.Client.Sending
import BacnetRs.System.Answering
import BacnetRs.Client.Datagrams
import BacnetRs.System.Discovery
import BacnetRs.System.Notifying
import BacnetRs.System.Exchange
import BacnetRs.System.Remote
