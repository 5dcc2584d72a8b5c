import Mooon.UniqId.Lease
import Mooon.UniqId.Conservation
import Mooon.DbProxy.Delivery
import Mooon.DbProxy.SqlLogger
import Mooon.Net.Chunking
import Mooon.Http.Pieces
import Mooon.Server.Served
import Mooon.Server.Ownership
import Mooon.Dispatcher.Stream
import Mooon.Dispatcher.References
import Mooon.Dispatcher.Places
import Mooon.Net.TcpClient
import Mooon.LightFs.RoundTrip
import Mooon.Logger.Delivery
import Mooon.Logger.Registration
import Mooon.Agent.Interest
import Mooon.UniqId.Renewal
import Mooon.Http.Boundary
import Mooon.Args.Parser
import Mooon.Agent.Locks
import Mooon.UniqId.Checksum
import Mooon.LightFs.Rename
import Mooon.Server.Response
import Mooon.Dispatcher.FileMessages
import Mooon.UniqId.Rendering
import Mooon.Tools.Movers
import Mooon.Agent.CenterHosts
import Mooon.DbProxy.History
import Mooon.Net.FileTransfer
import Mooon.Net.EpollableQueue
import Mooon.DbProxy.Filenames
import Mooon.DbProxy.CacheNumber
import Mooon.DbProxy.Conditions
import Mooon.DbProxy.Reports
import Mooon.Utils.TimeoutManager
import Mooon.Sys.ObjectPool
import Mooon.Logger.SafeLogger
import Mooon.Logger.RotateFile
import Mooon.Logger.QueuedLine
import Mooon.Args.WideInt
import Mooon.Net.DataStream
import Mooon.Utils.Hex
import Mooon.Utils.Trim
import Mooon.Utils.Url
import Mooon.Sys.Thread
import Mooon.Sys.ThreadPool
import Mooon.Net.Addresses
import Mooon.Sys.EventQueue
import Mooon.Sys.FileCopy
import Mooon.Sys.Deadlines
import Mooon.Sys.MemLayout
import Mooon.Utils.AesHelper
import Mooon.Sys.ForkSynchronizer
import Mooon.LightFs.Directory
