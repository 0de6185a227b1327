import HXService.Lib.Bytes
import HXService.Lib.Runs
import HXService.Message
import HXService.BigMessage
import HXService.MessageQueue
import HXService.Lib.Fifo
import HXService.DoubleQueue
import HXService.QueueBound
import HXService.Reassembly
import HXService.Completion
import HXService.AsioServer
import HXService.ConnectionTable
import HXService.Service
import HXService.Lookups
import HXService.Contexts
import HXService.StaleLinks
import HXService.SessionEvents
import HXService.FlvStream
import HXService.Lib.Roster
import HXService.UserManager
import HXService.CenterServer
import HXService.PlayerManager
import HXService.SceneServer
import HXService.MainLoop
import HXService.Identity
import HXService.AsioClient
import HXService.Lib.Writer
import HXService.WriteQueue
import HXService.Backlog
import HXService.Lib.Transfer
import HXService.Transmission
import HXService.Lib.Codec
import HXService.Streams
import HXService.StreamCursors
import HXService.StreamFailures
import HXService.StreamRoundTrip
import HXService.Framing
import HXService.Bookkeeping
import HXService.Sectioning
import HXService.Collection
import HXService.RoundTrip
import HXService.Compression
import HXService.Reception
import HXService.SequenceHeaders
import HXService.Delivery
import HXService.Forwarding
import HXService.DeclaredBody
import HXService.ClientSends
import HXService.SceneNetwork
import HXService.Lib.Exchange
import HXService.ExternalLists
import HXService.Disconnection
import HXService.Upkeep
import HXService.Lib.Ledger
import HXService.LeaveNotice
import HXService.Binding
import HXService.Refusal
import HXService.Lib.Memory
import HXService.StreamTrailer
import HXService.Lib.Journal
import HXService.Sends
import HXService.Lib.Batch
import HXService.SvcTimer
import HXService.Positions
import HXService.Lib.Condition
import HXService.MsgQueue
import HXService.LifeCycle
import HXService.ClientLists
import HXService.Lib.Packing
import HXService.Lib.Tags
import HXService.Seats
import HXService.Broadcast
import HXService.Commands
import HXService.StreamRelay
import HXService.Buffers
import HXService.QueueSteps
import HXService.UserVerifier
import HXService.Heartbeat
import HXService.Lib.Replica
import HXService.Views
import HXService.ClientLifeCycle
