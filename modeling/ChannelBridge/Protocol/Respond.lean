import ChannelBridge.Protocol.Answer
import ChannelBridge.Json.Reader

/-! # Answering requests that keep no state

Channels, payloads, envelopes, configurations and log formats are answered from the request alone.
A missing member of a request reads as `null`; a channel member must be a string naming a channel.
-/

namespace ChannelBridge

namespace Protocol

/-- Reads the channel named by a request member, which must be a string. -/
def channelOf (req : Json) (key : String) : Except Json Channel :=
  match req.field key with
  | .str s =>
    match Channel.parse s with
    | .ok c => .ok c
    | .error e => .error (Answer.unknownChannel e)
  | _ => .error (Answer.badInput "channel must be a string")

/-- The answer of a step that either answers or fails with an error answer. -/
def settle : Except Json Json → Json
  | .ok j => j
  | .error j => j

/-- A variable lookup over the string members of an object; other members count as unset. -/
def lookupIn (vars : Json) (name : String) : Option String :=
  (vars.get? name).bind Json.str?

/-- Answers `log_format_parse`: the format named by `value`, a missing value being empty. -/
def logFormatAnswer (req : Json) : Json :=
  let text := match req.field "value" with
    | .str s => s
    | _ => ""
  Json.object [("format", match LogFormat.parse text with
    | some f => Json.str f.name
    | none => .null)]

/-- Answers the requests that keep no state. -/
def answerStateless (op : String) (req : Json) : Option Json :=
  if op = "channel_all" then some (.arr (Channel.all.map Answer.channel))
  else if op = "channel_parse" then some (settle (Answer.channel <$> channelOf req "name"))
  else if op = "channel_from_json" then
    some (match Channel.decode (req.field "value") with
      | .ok c => Answer.channel c
      | .error e => Answer.decodeError e)
  else if op = "decode" then
    some (settle ((fun c => Answer.decoded c (req.field "payload")) <$> channelOf req "channel"))
  else if op = "log_format_parse" then some (logFormatAnswer req)
  else if op = "config" then
    some (match BridgeConfig.ofLookup (lookupIn (req.field "vars")) with
      | .ok c => Answer.config c
      | .error e => Answer.configError e)
  else if op = "envelope" then
    some (match Envelope.decode (req.field "envelope") with
      | .ok e => Answer.envelope e
      | .error e => Answer.decodeError e)
  else if op = "logging_default" then some (Answer.logging LoggingConfig.default)
  else none

end Protocol

end ChannelBridge
