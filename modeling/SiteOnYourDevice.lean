import SiteOnYourDevice.Transition
import SiteOnYourDevice.SplitArgsSuffix
import SiteOnYourDevice.SdsRepr
import SiteOnYourDevice.Commands
import SiteOnYourDevice.CommandSeqParser
import SiteOnYourDevice.CommandCodec
import SiteOnYourDevice.CommandFraming
import SiteOnYourDevice.Infos
import SiteOnYourDevice.HttpServerHost
import SiteOnYourDevice.InnerServerHandlerHost
import SiteOnYourDevice.HostRegistry
import SiteOnYourDevice.HostLogins
import SiteOnYourDevice.LookedUpConnections
import SiteOnYourDevice.PendingRequests
import SiteOnYourDevice.CommandsOut
import SiteOnYourDevice.ResponseExchange
import SiteOnYourDevice.RelayHandler
import SiteOnYourDevice.RelayAnswers
import SiteOnYourDevice.HttpClient
import SiteOnYourDevice.HttpServerHandler
import SiteOnYourDevice.Json
import SiteOnYourDevice.InnerServerHandler
import SiteOnYourDevice.DeviceConfiguration
import SiteOnYourDevice.SavedConfig
import SiteOnYourDevice.DeviceIdentity
import SiteOnYourDevice.CommandExchanges
import SiteOnYourDevice.ConfigurationFrame
import SiteOnYourDevice.HttpInnerServerHandler
import SiteOnYourDevice.AuthenticationGate
import SiteOnYourDevice.PrivateSite
import SiteOnYourDevice.RelayReuse
import SiteOnYourDevice.PartialInverse
import SiteOnYourDevice.ProxyPairs
import SiteOnYourDevice.LoopController
import SiteOnYourDevice.RelayLoops
import SiteOnYourDevice.RelayHandover
import SiteOnYourDevice.NetworkController
import SiteOnYourDevice.KeyedTable
import SiteOnYourDevice.StreamTable
import SiteOnYourDevice.HttpCallbacks
import SiteOnYourDevice.HeadersFrames
import SiteOnYourDevice.Http2Answers
import SiteOnYourDevice.ProtocolCheck
import SiteOnYourDevice.WebSocketFrame
import SiteOnYourDevice.WebSocketServerHandler
import SiteOnYourDevice.WebSocketStream
import SiteOnYourDevice.ValidateEmail
import SiteOnYourDevice.LoginFrame
import SiteOnYourDevice.RelayPipes
import SiteOnYourDevice.ProxiedConnection
import SiteOnYourDevice.WorkingDirectory
import SiteOnYourDevice.RemoveIf
import SiteOnYourDevice.SubscribedRequests
import SiteOnYourDevice.Documents
import SiteOnYourDevice.Accounts
import SiteOnYourDevice.DomainRequests
import SiteOnYourDevice.LoginStore
import SiteOnYourDevice.SocialAccounts
import SiteOnYourDevice.WebSocketConnection
import SiteOnYourDevice.Shlex
import SiteOnYourDevice.BuildRequest
import SiteOnYourDevice.FrameGrammar
import SiteOnYourDevice.ArrayReads
import SiteOnYourDevice.BoundedScan
import SiteOnYourDevice.ForwardedFrames
import SiteOnYourDevice.SplitArgsPrefix
import SiteOnYourDevice.FailureAnswers
import SiteOnYourDevice.RedisStorage
import SiteOnYourDevice.SequenceIds
import SiteOnYourDevice.SetConfig
import SiteOnYourDevice.AppliedConfig
import SiteOnYourDevice.UserAuthText
import SiteOnYourDevice.BuiltFrames
import SiteOnYourDevice.CommandDispatch
import SiteOnYourDevice.HonestApprovals
import SiteOnYourDevice.RelaySockets
import SiteOnYourDevice.BufferAccess
import SiteOnYourDevice.WebSocketBounds
import SiteOnYourDevice.HttpResponseText
import SiteOnYourDevice.WebSocketUpgrade
import SiteOnYourDevice.FileBodies
import SiteOnYourDevice.ErrorPages
import SiteOnYourDevice.Persistence
import SiteOnYourDevice.DispatchTable
import SiteOnYourDevice.SettingsNegotiation
import SiteOnYourDevice.PowerActions
import SiteOnYourDevice.RedisSub
import SiteOnYourDevice.DotSegments
import SiteOnYourDevice.ContentFiles
import SiteOnYourDevice.Raising
import SiteOnYourDevice.BuildServer
import SiteOnYourDevice.AmqpRpc
import SiteOnYourDevice.EventLoop
import SiteOnYourDevice.PackageListing
import SiteOnYourDevice.Passport
import SiteOnYourDevice.ReplyBuffer
import SiteOnYourDevice.ReplyText
import SiteOnYourDevice.RedisContext
import SiteOnYourDevice.RedisSession
import SiteOnYourDevice.ReplySafety
import SiteOnYourDevice.RedisExchange
import SiteOnYourDevice.RedisFormat
import SiteOnYourDevice.RedisCommands
import SiteOnYourDevice.RedisListen
import SiteOnYourDevice.DeviceLink
import SiteOnYourDevice.PageRequests
import SiteOnYourDevice.DeviceLogins
import SiteOnYourDevice.LoginAgreement
import SiteOnYourDevice.ReaderBlock
