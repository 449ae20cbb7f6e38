import ChannelBridge.Protocol.Process

/-! # Serving requests

Reads one request per line and answers it. The `op` member names the operation; a missing or
non-string `op` reads as the empty name, which no operation has. A line that is not JSON is
answered with the reader's error, and a line of blanks is not answered at all.
-/

namespace ChannelBridge

namespace Protocol

/-- Answers one request. -/
def answer (req : Json) : Json :=
  let op := ((req.get? "op").bind Json.str?).getD ""
  match answerStateless op req with
  | some j => j
  | none =>
    if op = "session" then (session req).1
    else if op = "process" then process req
    else Answer.error "UnknownOp" op []

/-- Answers one line of text; a line of blanks gets no answer. -/
def respondLine (line : String) : Option String :=
  if line.toList.all (fun c => c = ' ' ∨ c = '\t' ∨ c = '\r' ∨ c = '\n') then none
  else
    some (match Json.parse line with
      | .ok req => (answer req).render
      | .error e => (Answer.badInput e.message).render)

end Protocol

end ChannelBridge
