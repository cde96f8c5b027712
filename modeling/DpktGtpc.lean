import DpktGtpc.Python
import DpktGtpc.Codecs
import DpktGtpc.Packet
import DpktGtpc.Gtp.IE
import DpktGtpc.Gtp.GTPv1C
import DpktGtpc.Gtp.GTPv2C
import DpktGtpc.Gtp.Decode
import DpktGtpc.Gtp.Encode
import DpktGtpc.Gtp.Framing
import DpktGtpc.Dns.Name
import DpktGtpc.Dns.Wire
import DpktGtpc.Dns.Compress
import DpktGtpc.Dns.Record
import DpktGtpc.Dns.Message
import DpktGtpc.Dns.Decode
import DpktGtpc.Dns.Pointers
import DpktGtpc.Dns.Keys
import DpktGtpc.Dns.Reencode
import DpktGtpc.Dns.Traffic
import DpktGtpc.Messages
import DpktGtpc.Flags
import DpktGtpc.Factory.Encode
import DpktGtpc.Factory.Builders
import DpktGtpc.Factory.V2
