import Shadowsocks.Lib.Wire
import Shadowsocks.Lib.Loop
import Shadowsocks.Lib.Poll
import Shadowsocks.Lib.Reader
import Shadowsocks.Lib.Transport
import Shadowsocks.Lib.RingBuffer
import Shadowsocks.Lib.Text
import Shadowsocks.Lib.Fallible
import Shadowsocks.Lib.Base64
import Shadowsocks.Lib.PercentEncoding
import Shadowsocks.Lib.Regex
import Shadowsocks.Lib.RegexSyntax
import Shadowsocks.Lib.RegexFolding
import Shadowsocks.Lib.RegexLiterals
import Shadowsocks.Lib.Aead
import Shadowsocks.Lib.LruCache
import Shadowsocks.Lib.Reachable
import Shadowsocks.Lib.Relaying
import Shadowsocks.Lib.Sealing
import Shadowsocks.Lib.Reading
import Shadowsocks.Lib.Acknowledging
import Shadowsocks.Crypto
import Shadowsocks.Context
import Shadowsocks.PingPongRuns
import Shadowsocks.Tcp.ChunkReader
import Shadowsocks.Tcp.ChunkReaderSpec
import Shadowsocks.Tcp.ChunkReaderRuns
import Shadowsocks.Tcp.ChunkWriter
import Shadowsocks.Tcp.Stream
import Shadowsocks.Tcp.CryptoIo
import Shadowsocks.Tcp.Aead
import Shadowsocks.Tcp.AeadStream
import Shadowsocks.Config
import Shadowsocks.Tcp.Aead2022
import Shadowsocks.Tcp.Aead2022Stream
import Shadowsocks.Tcp.Aead2022Header
import Shadowsocks.Tcp.ServerReplay
import Shadowsocks.Tcp.Acknowledged
import Shadowsocks.Tcp.ProxyClientStream
import Shadowsocks.Tcp.ProxyServerStream
import Shadowsocks.Tcp.CryptoIoRuns
import Shadowsocks.Tcp.ClientResponse
import Shadowsocks.Udp.PacketWindow
import Shadowsocks.Udp.WindowRuns
import Shadowsocks.Net.Address
import Shadowsocks.Net.IpText
import Shadowsocks.Net.SocketAddrText
import Shadowsocks.Net.Url
import Shadowsocks.Net.ServerAddr
import Shadowsocks.Net.AddressText
import Shadowsocks.Config.ServerConfig
import Shadowsocks.Config.Passwords
import Shadowsocks.Config.ServerUrl
import Shadowsocks.Config.SsConfig
import Shadowsocks.Config.SsConfigText
import Shadowsocks.Config.UrlTotal
import Shadowsocks.Config.LocalConfig
import Shadowsocks.Config.ServiceConfig
import Shadowsocks.Config.LoadingTotal
import Shadowsocks.Net.Socks5
import Shadowsocks.Net.Socks5Messages
import Shadowsocks.Net.Resolve
import Shadowsocks.Net.Connect
import Shadowsocks.Acl
import Shadowsocks.Acl.SubDomainsTree
import Shadowsocks.Acl.Target
import Shadowsocks.Acl.Spelling
import Shadowsocks.Acl.Loader
import Shadowsocks.Acl.FastPath
import Shadowsocks.Acl.CaseFolding
import Shadowsocks.Acl.Layout
import Shadowsocks.Udp.ProxySocket
import Shadowsocks.Udp.Aead2022
import Shadowsocks.Udp.RoundTrip
import Shadowsocks.Udp.DecoderPanics
import Shadowsocks.Server.Context
import Shadowsocks.Server.UdpAssociation
import Shadowsocks.Server.AssociationRuns
import Shadowsocks.Server.UdpServer
import Shadowsocks.Server.TcpServer
import Shadowsocks.Server.OutboundBlock
import Shadowsocks.Server.UdpServerRuns
import Shadowsocks.Server.UdpReplay
import Shadowsocks.Server.UdpUsers
import Shadowsocks.Server.UserKeys
import Shadowsocks.Local.SocksServer
import Shadowsocks.Local.SocksAuth
import Shadowsocks.Local.SocksMethods
import Shadowsocks.Local.Http.Uri
import Shadowsocks.Local.Http.Headers
import Shadowsocks.Local.Http.HttpClient
import Shadowsocks.Local.Http.KeepAlive
import Shadowsocks.Local.Http.SchemeRuns
import Shadowsocks.Local.UdpAssociation
import Shadowsocks.Local.OwnSession
import Shadowsocks.Local.UdpSenders
import Shadowsocks.Udp.Reordering
import Shadowsocks.Udp.AddressDecoders
import Shadowsocks.Net.Socks5RoundTrip
import Shadowsocks.Tcp.RequestHeader
import Shadowsocks.Tcp.ReaderDelivery
import Shadowsocks.Tcp.AeadDelivery
import Shadowsocks.Tcp.AeadRoundTrip
import Shadowsocks.Tcp.StreamDelivery
import Shadowsocks.Tcp.CryptoDelivery
import Shadowsocks.Tcp.Handshake
import Shadowsocks.Tcp.Sending
import Shadowsocks.Tcp.Receiving
import Shadowsocks.Tcp.Conversation
import Shadowsocks.Udp.CryptoIo
import Shadowsocks.Tcp.CopyBidirectional
import Shadowsocks.Tcp.CopyRuns
import Shadowsocks.Tcp.CopyProgress
import Shadowsocks.Local.Tun.Smoltcp
import Shadowsocks.Local.Tun.Tcp
import Shadowsocks.Local.Tun.TcpRuns
import Shadowsocks.Local.Tun.Frames
import Shadowsocks.Manager.Server
import Shadowsocks.Manager.AddRuns
import Shadowsocks.Manager.KeyLengths
import Shadowsocks.Manager.Protocol
import Shadowsocks.Manager.Listing
import Shadowsocks.Local.Socks4
import Shadowsocks.Local.Targets
import Shadowsocks.Local.BadDatagrams
import Shadowsocks.Udp.CipherCache
import Shadowsocks.Lib.Letters
import Shadowsocks.Local.Dns.Message
import Shadowsocks.Local.Dns.Server
import Shadowsocks.Local.Dns.Responses
import Shadowsocks.Local.Dns.SplitLookup
import Shadowsocks.Local.Dns.Upstream
import Shadowsocks.Local.Dns.ClientCache
import Shadowsocks.Local.Dns.CacheRuns
import Shadowsocks.Local.Dns.Resolver
import Shadowsocks.Local.Dns.ReverseNames
import Shadowsocks.Local.Context
import Shadowsocks.Local.PingBalancer
import Shadowsocks.Local.PingBalancerRuns
import Shadowsocks.Net.HappyEyeballs
import Shadowsocks.Android.ObfuscatorRuns
import Shadowsocks.Local.UdpRelay
import Shadowsocks.Local.UdpRelayRuns
import Shadowsocks.Local.UdpFrontEnds
