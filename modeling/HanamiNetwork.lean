import HanamiNetwork.Basis.Run
import HanamiNetwork.Basis.Trace
import HanamiNetwork.Basis.Polling
import HanamiNetwork.Basis.Memory
import HanamiNetwork.Basis.OrderedMap
import HanamiNetwork.Basis.Check
import HanamiNetwork.Basis.Mutex
import HanamiNetwork.Basis.WriteOnce
import HanamiNetwork.Basis.Worker
import HanamiNetwork.Basis.Threads
import HanamiNetwork.Basis.Sections
import HanamiNetwork.Basis.OwnedTree
import HanamiNetwork.Basis.Ledger
import HanamiNetwork.Basis.Regex
import HanamiNetwork.Basis.Json
import HanamiNetwork.Data.Items
import HanamiNetwork.Data.World
import HanamiNetwork.Data.ItemMethods
import HanamiNetwork.Data.OverrideModes
import HanamiNetwork.Blossoms.Fields
import HanamiNetwork.Blossoms.FieldItems
import HanamiNetwork.Blossoms.Validation
import HanamiNetwork.Blossoms.Blossom
import HanamiNetwork.Blossoms.FieldRules
import HanamiNetwork.Blossoms.Borders
import HanamiNetwork.Blossoms.Trigger
import HanamiNetwork.Blossoms.Completeness
import HanamiNetwork.Blossoms.ValueItemMap
import HanamiNetwork.Blossoms.CompareMap
import HanamiNetwork.Blossoms.MapHeap
import HanamiNetwork.Blossoms.MapOwnership
import HanamiNetwork.Messaging.MessageDefinitions
import HanamiNetwork.Messaging.Callbacks
import HanamiNetwork.Messaging.Client
import HanamiNetwork.Messaging.ResponseDecoder
import HanamiNetwork.Messaging.RoundTrip
import HanamiNetwork.Messaging.Encoders
import HanamiNetwork.Messaging.Formats
import HanamiNetwork.Messaging.ErrorLog
import HanamiNetwork.Messaging.SelfLock
import HanamiNetwork.Messaging.Stream
import HanamiNetwork.Messaging.Permission
import HanamiNetwork.Messaging.TokenRequest
import HanamiNetwork.Messaging.Event
import HanamiNetwork.Messaging.Gate
import HanamiNetwork.Messaging.Service
import HanamiNetwork.Messaging.ReportedOnce
import HanamiNetwork.Messaging.JsonShape
import HanamiNetwork.Messaging.ErrorCodes
import HanamiNetwork.Messaging.Dispatch
import HanamiNetwork.Sessions.Connections
import HanamiNetwork.Sessions.Outgoing
import HanamiNetwork.Sessions.Shortcuts
import HanamiNetwork.Sessions.Waiting
import HanamiNetwork.Sessions.Server
import HanamiNetwork.Sessions.Initialize
import HanamiNetwork.Sessions.Leak
import HanamiNetwork.Sessions.LostSession
import HanamiNetwork.Sessions.System
import HanamiNetwork.Sessions.Registry
import HanamiNetwork.Sessions.Concurrent
import HanamiNetwork.Sessions.Lookup
import HanamiNetwork.Sessions.Queue
import HanamiNetwork.Sessions.QueueInstance
import HanamiNetwork.Sessions.Answers
import HanamiNetwork.Sessions.Tasks
import HanamiNetwork.Sessions.RemoteCall
import HanamiNetwork.Sessions.Locks
import HanamiNetwork.Sessions.Deadlock
import HanamiNetwork.Sessions.ReportThreads
import HanamiNetwork.Sessions.ReportRace
import HanamiNetwork.Sessions.ReportLoss
