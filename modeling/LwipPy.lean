import LwipPy.Methods
import LwipPy.Inet
import LwipPy.Poll
import LwipPy.PollHistory
import LwipPy.Instance
import LwipPy.Ownership
import LwipPy.SocketRuns
import LwipPy.Selector
import LwipPy.SelectorRuns
import LwipPy.Errno
import LwipPy.Receive
import LwipPy.SocketPair
import LwipPy.Routing
import LwipPy.Netif
import LwipPy.DriverReports
import LwipPy.Library.NestedSections
import LwipPy.CoreLock
import LwipPy.SendAll
import LwipPy.ConnectOutcome
import LwipPy.NetifInput
import LwipPy.PairConnects
import LwipPy.PbufChain
import LwipPy.RoutingHook
import LwipPy.WarningsAsErrors
import LwipPy.SockOptions
import LwipPy.BufferExtents
import LwipPy.PollMarshalling
import LwipPy.OptionNames
import LwipPy.ErrorTranslation
import LwipPy.Ip4Numbers
import LwipPy.MethodCalls
import LwipPy.Streams
import LwipPy.PairRule
import LwipPy.BlockingMode
import LwipPy.Library.Interleaving
import LwipPy.Threads
import LwipPy.Library.Protocol
import LwipPy.ThreadSafety
import LwipPy.InterpreterExit
import LwipPy.SelectReports
import LwipPy.TcpipInit
import LwipPy.NetifLifetime
