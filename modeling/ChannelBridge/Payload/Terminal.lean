import ChannelBridge.Decode.Basic

/-! # Terminal output

A chunk of output of one terminal of a workspace. On the wire its members are in camel case.
-/

namespace ChannelBridge

/-- Output of a terminal. -/
structure TerminalOutput where
  workspaceId : String
  terminalId : String
  data : String
  deriving BEq, DecidableEq, Inhabited

namespace TerminalOutput

/-- The members, all required strings. -/
def schema : List Decode.Member :=
  [.of "workspaceId" false Decode.string, .of "terminalId" false Decode.string,
    .of "data" false Decode.string]

/-- Reads terminal output. -/
def decode (j : Json) : Except DecodeError TerminalOutput := do
  let found ← Decode.record "struct TerminalOutput" schema j
  let workspaceId ← Decode.required found "workspaceId" Decode.string
  let terminalId ← Decode.required found "terminalId" Decode.string
  let data ← Decode.required found "data" Decode.string
  pure ⟨workspaceId, terminalId, data⟩

/-- Writes terminal output. -/
def encode (t : TerminalOutput) : Json :=
  Json.object [("workspaceId", .str t.workspaceId), ("terminalId", .str t.terminalId),
    ("data", .str t.data)]

end TerminalOutput

end ChannelBridge
