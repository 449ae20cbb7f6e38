import ChannelBridge.Protocol.Serve
import ChannelBridge.Proofs.Session.Correspondence
import ChannelBridge.Proofs.Session.Wiring
import ChannelBridge.Proofs.Session.Delivery
import ChannelBridge.Proofs.Session.Safety
import ChannelBridge.Proofs.Session.Cancellation
import ChannelBridge.Proofs.Payload.RoundTrip
import ChannelBridge.Proofs.Session.Ledger
import ChannelBridge.Proofs.Session.Accounts
import ChannelBridge.Proofs.Session.Counters
import ChannelBridge.Proofs.Session.Streams
import ChannelBridge.Proofs.Session.Grounded
import ChannelBridge.Proofs.Session.Shadow
import ChannelBridge.Proofs.Config.Capacity
import ChannelBridge.Proofs.Host.Ids
import ChannelBridge.Proofs.Payload.Reemit
import ChannelBridge.Proofs.Session.Refused
import ChannelBridge.Proofs.Session.Pruning
import ChannelBridge.Proofs.Channel.Names
import ChannelBridge.Proofs.Session.Transport
