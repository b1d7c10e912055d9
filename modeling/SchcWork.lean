import SchcWork.Library.Memory
import SchcWork.Library.OnesComplement
import SchcWork.Library.EventFlags
import SchcWork.Library.LabelledSystem
import SchcWork.Library.TextInput
import SchcWork.Library.Sponge
import SchcWork.Library.KeyedHash
import SchcWork.Library.BitString
import SchcWork.Library.HeaderCompression
import SchcWork.Net.Udp
import SchcWork.Net.Checksum
import SchcWork.Commons.NetHelper
import SchcWork.Platform.WatchTable
import SchcWork.Worker.Oscore
import SchcWork.Worker.AdaptationLayer
import SchcWork.Worker.SendDown
import SchcWork.Worker.ForwardUp
import SchcWork.Worker.RoundTrip
import SchcWork.Worker.MainLoop
import SchcWork.Worker.FailClosed
import SchcWork.Platform.Base64
import SchcWork.Nvm.Record
import SchcWork.Nvm.Scan
import SchcWork.Nvm.Lookup
import SchcWork.Nvm.Restart
import SchcWork.Ascon.Hmac
import SchcWork.Ascon.Hkdf
import SchcWork.Ascon.Aead
import SchcWork.Schc.ExtensionApi
import SchcWork.Schc.Helper
import SchcWork.Schc.Packet
import SchcWork.Schc.OuterRules
import SchcWork.Schc.OuterCompression
import SchcWork.L2.AhoiL2a
import SchcWork.Worker.InnerCodec
import SchcWork.Worker.PlainFallback
import SchcWork.Nvm.KeyCodec
import SchcWork.Schc.ConfigExit
import SchcWork.Worker.Lifecycle
import SchcWork.Platform.Timer
import SchcWork.Schc.RuleIdFraming
import SchcWork.Platform.PollRound
import SchcWork.Library.BoundedMap
import SchcWork.Platform.WatchMap
import SchcWork.Platform.Base64RoundTrip
import SchcWork.Library.LossyNetwork
import SchcWork.Worker.Tunnel
import SchcWork.Schc.WireFormat
import SchcWork.Schc.OuterTransport
import SchcWork.Worker.Progress
import SchcWork.Library.OrderedNetwork
import SchcWork.Worker.Delivery
import SchcWork.Schc.PointToPoint
import SchcWork.Worker.SchcTunnel
import SchcWork.Worker.SignalLoop
import SchcWork.Worker.Datagram
import SchcWork.Library.Duplex
