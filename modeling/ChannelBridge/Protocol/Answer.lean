import ChannelBridge.Envelope
import ChannelBridge.Config
import ChannelBridge.Json.Writer

/-! # Answers

The scenario protocol answers every request with one JSON value. An error answer is an object with
the kind of error under `error` and its words under `message`; some kinds add members. This module
writes the answers for channels, payloads, envelopes and configurations.
-/

namespace ChannelBridge

namespace Answer

/-- An error answer: the kind, the words, and extra members. -/
def error (kind message : String) (extra : List (String × Json)) : Json :=
  Json.object ([("error", Json.str kind), ("message", Json.str message)] ++ extra)

/-- A request that the protocol cannot read. -/
def badInput (message : String) : Json := error "BadInput" message []

/-- A decoding failure. -/
def decodeError (e : DecodeError) : Json := error "Decode" e.message []

/-- An unknown channel name. -/
def unknownChannel (e : UnknownChannel) : Json :=
  error "UnknownChannel" e.message [("name", Json.str e.name)]

/-- A channel's three spellings: its name, its displayed text and its serialized form. -/
def channel (c : Channel) : Json :=
  Json.object [("as_str", Json.str c.name), ("display", Json.str (toString c)), ("serde", c.encode)]

/-- A double, or `null` when there is none. -/
def optionalFloat : Option Float → Json
  | some f => Json.ofFloat f
  | none => .null

/-- What the payload helpers say about a payload. -/
def info : Payload → Json
  | .appServer e =>
    Json.object [("method", Json.str e.method), ("is_request", Json.bool e.message.isRequest)]
  | .download s => Json.object [("percent_complete", optionalFloat s.percentComplete)]
  | .dictation e => Json.object [("kind", Json.str e.kind.name)]
  | _ => Json.object []

/-- The decoded payload of a channel with its helper facts, or the decoding error. -/
def decoded (c : Channel) (payload : Json) : Json :=
  match Payload.decode c payload with
  | .ok p => Json.object [("payload", p.encode), ("info", info p)]
  | .error e => decodeError e

/-- An envelope read back: its id, channel, written form and decoded payload. -/
def envelope (e : Envelope) : Json :=
  Json.object [("id", Json.ofNat e.id), ("channel", Json.str e.channel.name),
    ("envelope", e.encode), ("decoded", decoded e.channel e.payload)]

/-- A refused configuration value. -/
def configError (e : ConfigError) : Json :=
  error "InvalidValue" e.message
    [("field", Json.str e.var.name), ("value", Json.str e.value), ("reason", Json.str e.reason.text)]

/-- A logging configuration. -/
def logging (l : LoggingConfig) : Json :=
  Json.object [("level", Json.str l.level), ("format", Json.str l.format.name)]

/-- A configuration, and whether it equals the default one. -/
def config (c : BridgeConfig) : Json :=
  Json.object [("dispatcher_capacity", Json.ofNat c.dispatcherCapacity),
    ("log_level", Json.str c.logLevel), ("log_format", Json.str c.logFormat.name),
    ("logging", logging c.logging), ("is_default", Json.bool (c == BridgeConfig.default))]

end Answer

end ChannelBridge
