import Disgord.Packet
import Disgord.Events
import Disgord.Demux
import Disgord.Pulse
import Disgord.Restart
import Disgord.Server
import Disgord.Client
import Disgord.Handshake
import Disgord.Projection
import Disgord.Emitter
import Disgord.Watchdog
import Disgord.Outbound
import Disgord.Delivery
import Disgord.Pulsators
import Disgord.Sync
import Disgord.Reconnects
import Disgord.Errors
