import LesChat.Foundation.Bytes
import LesChat.Foundation.Run
import LesChat.Foundation.Keyed
import LesChat.Foundation.Table
import LesChat.Foundation.Journal
import LesChat.Foundation.Sorting
import LesChat.Foundation.Json
import LesChat.Foundation.JsonParser
import LesChat.Message.Protocol
import LesChat.Message.Utf8
import LesChat.Message.JsonC
import LesChat.Message.Codec
import LesChat.Message.Encoding
import LesChat.Store.MessageStore
import LesChat.Store.MessageStoreLaws
import LesChat.Store.Consistency
import LesChat.Store.StoreRuns
import LesChat.Service.MessageService
import LesChat.Service.LocalMessage
import LesChat.Service.MessageServiceLaws
import LesChat.Service.NodeRuns
import LesChat.Service.Acknowledged
import LesChat.Http.Http
import LesChat.Http.HttpApi
import LesChat.Http.HttpApiLaws
import LesChat.Http.Daemon
import LesChat.Http.DeliveryOrder
import LesChat.Http.SequenceRange
import LesChat.Http.ReplicaLimit
import LesChat.Sync.SyncService
import LesChat.Sync.BatchLimit
import LesChat.Sync.SummaryLimit
import LesChat.Sync.SyncRound
import LesChat.Network.CatchUp
import LesChat.Network.Recovery
import LesChat.Store.FailedAdd
import LesChat.Store.UsedNumbers
import LesChat.Store.Bounded
import LesChat.Service.IngestPaths
import LesChat.Service.RoundTrip
import LesChat.Discovery.Clock
import LesChat.Discovery.PeerRegistry
import LesChat.Discovery.Silence
import LesChat.Network.BatchOrder
import LesChat.Web.PageRuns
import LesChat.Message.Utf8Exact
import LesChat.Web.EventFraming
import LesChat.Web.ServedText
import LesChat.Discovery.Understood
import LesChat.Foundation.Double
import LesChat.Web.HistoryPage
import LesChat.Web.ChatPageRuns
import LesChat.Web.ConversationOrder
import LesChat.Sync.SummaryMarks
import LesChat.Http.RejectedBatch
import LesChat.Discovery.ClockRange
import LesChat.Foundation.Ascending
import LesChat.Foundation.Relay
import LesChat.Foundation.Simulation
import LesChat.Network.InOrder
import LesChat.Network.Convergence
import LesChat.Network.Published
import LesChat.Http.Routes
import LesChat.Application.Application
import LesChat.Application.Steps
import LesChat.Application.Subscribers
import LesChat.Application.Outgoing
import LesChat.Application.Deployment
import LesChat.Discovery.TimeAgreement
import LesChat.Application.Meeting
import LesChat.Application.Spreading
import LesChat.Application.Readers
import LesChat.Application.CommandLine
import LesChat.Network.Unbroken
import LesChat.Network.HonestNode
import LesChat.Web.Composer
import LesChat.Web.SubmissionLaws
import LesChat.Web.SubmissionRuns
