import ChannelBridge.Channel
import ChannelBridge.Payload.AppServer
import ChannelBridge.Payload.Dictation
import ChannelBridge.Payload.Terminal

/-! # Payloads by channel

Each channel has one payload schema. The updater-check channel carries a bare signal: whatever JSON
comes with it is ignored, and it is written as `null`.
-/

namespace ChannelBridge

/-- A payload of one of the channels. -/
inductive Payload where
  | appServer (e : AppServerEvent)
  | download (s : ModelStatus)
  | dictation (e : DictationEvent)
  | terminal (t : TerminalOutput)
  | updaterCheck
  deriving BEq, Inhabited

namespace Payload

/-- The channel a payload belongs to. -/
def channel : Payload → Channel
  | .appServer _ => .appServerEvent
  | .download _ => .dictationDownload
  | .dictation _ => .dictationEvent
  | .terminal _ => .terminalOutput
  | .updaterCheck => .updaterCheck

/-- Reads the payload of a channel. -/
def decode : Channel → Json → Except DecodeError Payload
  | .appServerEvent, j => .appServer <$> AppServerEvent.decode j
  | .dictationDownload, j => .download <$> ModelStatus.decode j
  | .dictationEvent, j => .dictation <$> DictationEvent.decode j
  | .terminalOutput, j => .terminal <$> TerminalOutput.decode j
  | .updaterCheck, _ => .ok .updaterCheck

/-- Writes a payload. -/
def encode : Payload → Json
  | .appServer e => e.encode
  | .download s => s.encode
  | .dictation e => e.encode
  | .terminal t => t.encode
  | .updaterCheck => .null

end Payload

/-- Reads a channel from JSON: its serialized name, or a one-member object of that name and `null`. -/
def Channel.decode : Json → Except DecodeError Channel :=
  Decode.unitVariant (Channel.all.map fun c => (c.serialName, c))

/-- Writes a channel as its serialized name. -/
def Channel.encode (c : Channel) : Json := .str c.serialName

end ChannelBridge
