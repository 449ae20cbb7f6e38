import ChannelBridge.Decode.Basic

/-! # App-server events

An app-server event forwards one message of a workspace's app server. The message has a method,
free-form parameters, and an id when it is a request that expects an answer. An id of `null` counts
as no id, so it is dropped when the message is written again; absent parameters are `null`.
-/

namespace ChannelBridge

/-- A message of an app server. -/
structure AppServerMessage where
  /-- The request id; absent for notifications. -/
  id : Option Json
  method : String
  params : Json
  deriving BEq, Inhabited

/-- An app-server message of one workspace. -/
structure AppServerEvent where
  workspaceId : String
  message : AppServerMessage
  deriving BEq, Inhabited

namespace AppServerMessage

/-- Whether the message is a request: it has an id. -/
def isRequest (m : AppServerMessage) : Bool := m.id.isSome

/-- Any JSON value. -/
def anyValue (j : Json) : Except DecodeError Json := .ok j

/-- The members: `id` and `params` may be absent. -/
def schema : List Decode.Member :=
  [.of "id" true (Decode.optional anyValue), .of "method" false Decode.string,
    .of "params" true anyValue]

/-- Reads a message. -/
def decode (j : Json) : Except DecodeError AppServerMessage := do
  let found ← Decode.record "struct AppServerMessage" schema j
  let id ← Decode.withDefault found "id" (Decode.optional anyValue) none
  let method ← Decode.required found "method" Decode.string
  let params ← Decode.withDefault found "params" anyValue .null
  pure ⟨id, method, params⟩

/-- Writes a message; an absent id is left out. -/
def encode (m : AppServerMessage) : Json :=
  Json.object ((match m.id with | some v => [("id", v)] | none => []) ++
    [("method", .str m.method), ("params", m.params)])

end AppServerMessage

namespace AppServerEvent

/-- The method of the forwarded message. -/
def method (e : AppServerEvent) : String := e.message.method

/-- The members, both required. -/
def schema : List Decode.Member :=
  [.of "workspace_id" false Decode.string, .of "message" false AppServerMessage.decode]

/-- Reads an event. -/
def decode (j : Json) : Except DecodeError AppServerEvent := do
  let found ← Decode.record "struct AppServerEvent" schema j
  let workspaceId ← Decode.required found "workspace_id" Decode.string
  let message ← Decode.required found "message" AppServerMessage.decode
  pure ⟨workspaceId, message⟩

/-- Writes an event. -/
def encode (e : AppServerEvent) : Json :=
  Json.object [("workspace_id", .str e.workspaceId), ("message", e.message.encode)]

end AppServerEvent

end ChannelBridge
