import Muduo.Lib.Run
import Muduo.Base.Fault
import Muduo.Base.Machine
import Muduo.Lib.Storage
import Muduo.Base.Memory
import Muduo.Base.Convert
import Muduo.Lib.Positional
import Muduo.Lib.FixedWidth
import Muduo.Base.Canonical
import Muduo.Lib.HalfEven
import Muduo.Base.Printf
import Muduo.Base.FormatSI
import Muduo.Base.LogTime
import Muduo.Base.LogTimeCache
import Muduo.Base.Timestamp
import Muduo.Base.Logging
import Muduo.Base.LogStream
import Muduo.Lib.OrderedSet
import Muduo.Lib.Search
import Muduo.Lib.UpperBound
import Muduo.Lib.Condition
import Muduo.Lib.Handoff
import Muduo.Base.ThreadPool
import Muduo.Base.ThreadPoolWorkers
import Muduo.Base.BoundedBlockingQueue
import Muduo.Lib.Monitor
import Muduo.Base.BoundedQueueCode
import Muduo.Base.BlockingQueue
import Muduo.Base.CountDownLatch
import Muduo.Base.Thread
import Muduo.Base.Endian
import Muduo.Base.Date
import Muduo.Base.EarlyDays
import Muduo.Base.Calendar
import Muduo.Base.TimeZone
import Muduo.Base.ZoneRoundTrip
import Muduo.Base.UtcTime
import Muduo.Base.ZoneFile
import Muduo.Base.ZoneFormat
import Muduo.Base.LogFile
import Muduo.Base.ReadSmallFile
import Muduo.Base.AsyncLogging
import Muduo.Base.AsyncLoggingStop
import Muduo.Net.Buffer
import Muduo.Net.BufferDeque
import Muduo.Net.BufferInt
import Muduo.Net.BufferWire
import Muduo.Net.Channel
import Muduo.Net.Connector
import Muduo.Net.ConnectorRuns
import Muduo.Net.ConnectorSockets
import Muduo.Net.Acceptor
import Muduo.Net.TcpClient
import Muduo.Net.TcpClientRuns
import Muduo.Net.TcpClientEnd
import Muduo.Net.Dispatch
import Muduo.Net.EventLoop
import Muduo.Net.EventLoopThread
import Muduo.Net.Http.Context
import Muduo.Net.Http.HeaderSection
import Muduo.Net.Http.Incremental
import Muduo.Net.Http.Message
import Muduo.Net.Http.Parse
import Muduo.Net.Http.Pipeline
import Muduo.Net.Http.Response
import Muduo.Net.Http.ResponseReader
import Muduo.Net.Http.ResponseStream
import Muduo.Net.Http.RoundTrip
import Muduo.Net.Http.Server
import Muduo.Net.Http.Termination
import Muduo.Net.Http.BadLine
import Muduo.Net.Http.Answers
import Muduo.Net.Http.Dialogue
import Muduo.Net.PendingFunctors
import Muduo.Net.Reactor
import Muduo.Net.PollEvents
import Muduo.Net.Pollers
import Muduo.Net.TcpTeardown
import Muduo.Net.TcpServer
import Muduo.Net.TcpFrame
import Muduo.Net.TcpSilence
import Muduo.Net.TcpBooks
import Muduo.Net.TcpShutdown
import Muduo.Net.TcpSpeech
import Muduo.Net.TcpNotices
import Muduo.Net.TcpPair
import Muduo.Net.TcpServing
import Muduo.Net.TimerInvariant
import Muduo.Net.TimerMoves
import Muduo.Net.TimerCancel
import Muduo.Net.TimerClock
import Muduo.Net.TimerDue
import Muduo.Net.TimerSystem
