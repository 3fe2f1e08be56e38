import Sp2p.Lib.Runs
import Sp2p.Lib.Interleaving
import Sp2p.Lib.Pool
import Sp2p.Lib.Framing
import Sp2p.Lib.TreeMap
import Sp2p.Lib.Lines
import Sp2p.Lib.Base64
import Sp2p.Lib.DeadlineTimer
import Sp2p.Protocol
import Sp2p.Tracker.Sql
import Sp2p.Tracker.Database
import Sp2p.Tracker.PsqlConnector
import Sp2p.Tracker.RequestHandler
import Sp2p.Tracker.Outcome
import Sp2p.Tracker.Gate
import Sp2p.Tracker.Failure
import Sp2p.Tracker.Confinement
import Sp2p.Tracker.Run
import Sp2p.Tracker.SessionLife
import Sp2p.Tracker.Credentials
import Sp2p.Tracker.Unlisted
import Sp2p.Tracker.Conflict
import Sp2p.Tracker.Serial
import Sp2p.Tracker.Transactions
import Sp2p.Tracker.RequestParser
import Sp2p.Sercli.Parser
import Sp2p.Sercli.Promise
import Sp2p.Sercli.FrameEnds
import Sp2p.Delivery
import Sp2p.Tracker.SessionStore
import Sp2p.Tracker.Cleaning
import Sp2p.Tracker.Registration
import Sp2p.Tracker.Listing
import Sp2p.Tracker.Lease
import Sp2p.Tracker.Upsert
import Sp2p.Tracker.Stop
import Sp2p.Tracker.Permissions
import Sp2p.Tracker.Invitations
import Sp2p.Tracker.Removal
import Sp2p.Sercli.Connection
import Sp2p.Sercli.NodeConnection
import Sp2p.Sercli.IdleClose
import Sp2p.Sercli.NodeThreads
import Sp2p.Sercli.ConnectionUse
import Sp2p.Sercli.Manager
import Sp2p.Sercli.Archive
import Sp2p.Sercli.RoundTrip
import Sp2p.Sercli.FailedLoad
import Sp2p.Sercli.DataManager
import Sp2p.Sercli.EncryptedFile
import Sp2p.Sercli.MessageFactory
import Sp2p.ServerTrip
import Sp2p.NetworkTrip
import Sp2p.KeyTrip
import Sp2p.Sercli.NodeCalls
import Sp2p.Sercli.NodeKeys
import Sp2p.NodeRun
import Sp2p.NodePassword
import Sp2p.Tracker.Restart
import Sp2p.Tracker.Account
import Sp2p.Tracker.Cookies
import Sp2p.Tracker.NumFromBuff
import Sp2p.NodeClient.ProgramLoop
import Sp2p.Sercli.Schedule
import Sp2p.Sercli.NetworkNodes
import Sp2p.Tracker.Daemon
import Sp2p.Sercli.ManagerKeys
import Sp2p.Lib.Pattern
import Sp2p.NodeClient.KeyFiles
import Sp2p.Sercli.CertFiles
import Sp2p.Sercli.Discovery
import Sp2p.Sercli.ConnectionLife
import Sp2p.Sercli.Disconnect
import Sp2p.Lib.Varint
import Sp2p.Lib.Wire
import Sp2p.Lib.Message
import Sp2p.Lib.Descriptor
import Sp2p.MessageClasses
import Sp2p.MessageTrip
import Sp2p.Tracker.ListedServers
import Sp2p.WireRun
import Sp2p.Tracker.Refinement
import Sp2p.Tracker.NulFree
import Sp2p.NodeClient.Context
import Sp2p.NodeClient.Effects
import Sp2p.NodeClient.Commands
import Sp2p.NodeClient.Consistency
import Sp2p.NodeClient.Outdated
import Sp2p.Sercli.Restorable
import Sp2p.NodeClient.Restored
import Sp2p.TrackerReplies
import Sp2p.Tracker.Salts
