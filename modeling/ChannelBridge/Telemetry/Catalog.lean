import ChannelBridge.Telemetry.Event
import ChannelBridge.Host.Basic

/-! # The events the bridge emits

One constructor per place that logs, with its level, target, message and fields in the order they
are recorded. Targets are module paths; log filters select events by them.
-/

namespace ChannelBridge

namespace LogEvent

/-- The target of events about the local host. -/
def localTarget : String := "tether_bridge::local"

/-- The target of events about registering and unwrapping. -/
def bridgeTarget : String := "tether_bridge::bridge"

/-- The target of events about cancelling. -/
def subscriptionTarget : String := "tether_bridge::subscription"

/-- The target of events about configuration. -/
def configTarget : String := "tether_bridge::config"

/-- The target of events about installing logging. -/
def telemetryTarget : String := "tether_telemetry::init"

/-- Logging was installed at `level`, in the format named `format`. -/
def loggingInitialised (level format : String) : LogEvent :=
  ⟨.debug, telemetryTarget, "logging initialised",
    [("level", .text level), ("format", .described format)]⟩

/-- The bridge read its configuration. -/
def bridgeConfigured (capacity : Nat) (level : String) : LogEvent :=
  ⟨.info, configTarget, "bridge configured",
    [("dispatcher_capacity", .count capacity), ("log_level", .shown level)]⟩

/-- A local host stored a registration. -/
def listenerRegistered (c : Channel) (id : Nat) : LogEvent :=
  ⟨.debug, localTarget, "listener registered", [("channel", .shown c.name), ("registration", .count id)]⟩

/-- A registration was acknowledged and a subscription made. -/
def subscriptionActive (c : Channel) (id : Nat) : LogEvent :=
  ⟨.debug, bridgeTarget, "subscription active", [("channel", .shown c.name), ("registration", .count id)]⟩

/-- A host refused a registration. -/
def registrationFailed (c : Channel) (e : HostError) : LogEvent :=
  ⟨.warn, bridgeTarget, "channel registration failed",
    [("channel", .shown c.name), ("error", .shown e.message)]⟩

/-- A registration ended without an acknowledgement, so its listener was retired. -/
def registrationAbandoned : LogEvent :=
  ⟨.debug, bridgeTarget, "registration did not complete; listener retired", []⟩

/-- A subscription was cancelled; `removed` says whether the host still had its registration. -/
def subscriptionCancelled (c : Channel) (id : Nat) (removed : Bool) : LogEvent :=
  ⟨.debug, subscriptionTarget, "subscription cancelled",
    [("channel", .shown c.name), ("registration", .count id), ("removed", .flag removed)]⟩

/-- A local host is handing an envelope to its live listeners. -/
def deliveringEnvelope (c : Channel) (id listeners : Nat) : LogEvent :=
  ⟨.trace, localTarget, "delivering envelope",
    [("channel", .shown c.name), ("event_id", .count id), ("listeners", .count listeners)]⟩

/-- A subscription dropped an envelope it could not use; `cause` is the decoding message. -/
def droppingEnvelope (error : String) (cause : Option String) : LogEvent :=
  ⟨.warn, bridgeTarget, "dropping envelope",
    [("error", .shown error), ("cause", FieldValue.optionalText cause)]⟩

/-- A local host was closed with registrations on `channels` channels. -/
def hostClosed (channels : Nat) : LogEvent :=
  ⟨.debug, localTarget, "local host closed", [("channels", .count channels)]⟩

/-- A dispatcher started with a queue of `capacity` envelopes. -/
def dispatcherStarted (capacity : Nat) : LogEvent :=
  ⟨.info, localTarget, "host dispatcher started", [("capacity", .count capacity)]⟩

/-- A dispatcher stopped after handing on `dispatched` envelopes. -/
def dispatcherStopped (dispatched : Nat) : LogEvent :=
  ⟨.info, localTarget, "host dispatcher stopped", [("dispatched", .count dispatched)]⟩

end LogEvent

end ChannelBridge
