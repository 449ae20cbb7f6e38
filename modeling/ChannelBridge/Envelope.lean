import ChannelBridge.Payload.Basic
import ChannelBridge.Timestamp.Parse

/-! # Envelopes

A host hands out each event in an envelope: an event id, the channel, the instant it was made and
the raw JSON payload. All four members are required; the payload may be `null`. The timestamp is an
RFC 3339 text, read leniently and kept in UTC.
-/

namespace ChannelBridge

/-- An event as a host delivers it. -/
structure Envelope where
  id : Nat
  channel : Channel
  timestamp : Timestamp
  payload : Json
  deriving Inhabited

namespace Envelope

/-- Reads a timestamp member. -/
def readTimestamp : Json → Except DecodeError Timestamp
  | .str s =>
    match Timestamp.parse s with
    | .ok t => .ok t
    | .error p => .error (.timestamp p)
  | j => .error (.wrongType j "an RFC 3339 formatted date and time string")

/-- Any JSON value. -/
def anyValue (j : Json) : Except DecodeError Json := .ok j

/-- The members, all required. -/
def schema : List Decode.Member :=
  [.of "id" false Decode.u64, .of "channel" false Channel.decode,
    .of "timestamp" false readTimestamp, .of "payload" false anyValue]

/-- Reads an envelope. -/
def decode (j : Json) : Except DecodeError Envelope := do
  let found ← Decode.record "struct EventEnvelope" schema j
  let id ← Decode.required found "id" Decode.u64
  let channel ← Decode.required found "channel" Channel.decode
  let timestamp ← Decode.required found "timestamp" readTimestamp
  let payload ← Decode.required found "payload" anyValue
  pure ⟨id, channel, timestamp, payload⟩

/-- Writes an envelope. -/
def encode (e : Envelope) : Json :=
  Json.object [("id", Json.ofNat e.id), ("channel", e.channel.encode),
    ("timestamp", Json.str e.timestamp.render), ("payload", e.payload)]

end Envelope

end ChannelBridge
