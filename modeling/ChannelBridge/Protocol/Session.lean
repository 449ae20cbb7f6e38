import ChannelBridge.Protocol.Respond
import ChannelBridge.Session.Dispatch

/-! # Session requests

A `session` request builds a host and runs a list of steps against one world. Every step is
answered with an object that also lists, under `deliveries`, the listener calls made during the
step. Handles are named: subscriptions and streams share one set of names, raw listeners have
their own.
-/

namespace ChannelBridge

namespace Protocol

/-- A host error as an answer. -/
def hostErrorAnswer (e : HostError) : Json :=
  match e with
  | .unreachable reason => Answer.error e.kind e.message [("reason", .str reason)]
  | .rejected c reason => Answer.error e.kind e.message [("channel", .str c.name), ("reason", .str reason)]
  | .closed => Answer.error e.kind e.message []

/-- Adds a member to an object answer. -/
def withMember (answer : Json) (k : String) (v : Json) : Json :=
  match answer with
  | .obj ms => .obj (Json.insertMember k v ms)
  | other => other

/-- A refused registration as an answer. -/
def registrationAnswer (c : Channel) (e : HostError) : Json :=
  Answer.error "Registration" "channel registration failed"
    [("channel", .str c.name), ("source", hostErrorAnswer e)]

/-- A listener call as an answer. -/
def deliveryAnswer : Delivery → Json
  | .payload handle p => Json.object [("sub", .str handle), ("payload", p.encode)]
  | .raw handle e =>
    Json.object [("raw", .str handle), ("id", Json.ofNat e.id), ("channel", .str e.channel.name),
      ("payload", e.payload)]

/-- A subscription's channel, registration and state. -/
def subscriptionAnswer (w : World) (s : Subscription) : Json :=
  let active := w.isActive s.listener
  Json.object [("channel", .str s.channel.name), ("registration", Json.ofNat s.registration),
    ("state", .str (if active then "active" else "cancelled")), ("active", .bool active)]

/-- The debug text of a subscription. -/
def subscriptionDebug (w : World) (s : Subscription) : String :=
  "Subscription \x7b channel: " ++ s.channel.variantName ++ ", registration: " ++
    toString s.registration ++ ", state: " ++
    (if w.isActive s.listener then "Active" else "Cancelled") ++ ", .. \x7d"

/-- The debug text of a listener. -/
def listenerDebug (w : World) (l : Nat) : String :=
  "HostListener \x7b active: " ++ toString (w.isActive l) ++ ", .. \x7d"

/-- The debug text of a local table. -/
def tableDebug (t : Registry) : String :=
  "LocalHost \x7b channels: " ++ toString t.entryCount ++ ", closed: " ++ toString t.closed ++ " \x7d"

/-- A bridge's counters as an answer. -/
def statsAnswer (s : BridgeStats) : Json :=
  Json.object [("registered", Json.ofNat s.registered.toNat), ("cancelled", Json.ofNat s.cancelled.toNat),
    ("delivered", Json.ofNat s.delivered.toNat), ("malformed", Json.ofNat s.malformed.toNat)]

/-- What a recording callback received. -/
def recordingAnswer (r : Recording) : Json :=
  Json.object ([("len", Json.ofNat r.payloads.size), ("is_empty", .bool r.payloads.isEmpty),
    ("payloads", .arr (r.payloads.toList.map Payload.encode))] ++
    match r.calls with
    | some n => [("count", Json.ofNat n)]
    | none => [])

/-- The host a session request names; a missing or non-string name means `local`. -/
def hostOf (req : Json) : Except Json Host :=
  match ((req.get? "host").bind Json.str?).getD "local" with
  | "local" => .ok (.local .empty)
  | "counting" => .ok (.counting .empty 0 0 0)
  | "delayed" => .ok (.delayed .empty 0)
  | "failing_unreachable" => .ok (.failing .unreachable 0 0 .empty)
  | "failing_rejecting" =>
    .ok (.failing (.rejecting (((req.get? "reason").bind Json.str?).getD "")) 0 0 .empty)
  | "broadcast" => .ok (.broadcast .empty .empty)
  | other => .error (Answer.badInput ("unknown host kind " ++ other))

/-- A string member, empty when missing or not a string. -/
def textOf (step : Json) (key : String) : String := ((step.get? key).bind Json.str?).getD ""

/-- The bridge a step names, `main` by default. -/
def bridgeOf (step : Json) : String := ((step.get? "bridge").bind Json.str?).getD "main"

/-- The reactions listed under `on_receive`. -/
def reactionsOf (step : Json) : List Reaction :=
  ((step.field "on_receive").arr?.getD []).filterMap fun a =>
    match (a.get? "cancel").bind Json.str?, (a.get? "drop").bind Json.str?, a.get? "close" with
    | some name, _, _ => some (.cancel name)
    | none, some name, _ => some (.drop name)
    | none, none, some _ => some .close
    | _, _, _ => none

/-- A fresh handle name from `as`: not empty and not in use. -/
def freshName (w : World) (step : Json) : Except Json String :=
  let name := textOf step "as"
  if name = "" then .error (Answer.badInput "missing handle name 'as'")
  else if (w.handles.lookup name).isSome then .error (Answer.error "DuplicateHandle" name [])
  else .ok name

/-- The handle a step names under `sub`. -/
def handleOf (w : World) (step : Json) : Except Json Handle :=
  let name := textOf step "sub"
  match w.handles.lookup name with
  | some h => .ok h
  | none => .error (Answer.error "NoSuchHandle" name [])

/-- The answer of a step that could not run, with the world unchanged. -/
def refuse (w : World) (answer : Json) : Json × World := (answer, w)

/-- Runs `subscribe` or, with `abandon`, `subscribe_abandon`. -/
def subscribeStep (w : World) (step : Json) (abandon : Bool) : Json × World :=
  match channelOf step "channel" with
  | .error a => refuse w a
  | .ok c =>
    match freshName w step with
    | .error a => refuse w a
    | .ok name =>
      let bridge : BridgeRef :=
        if step.field "free" == .bool true then .unnamed else .named (bridgeOf step)
      let (r, w) := w.addRecording name (c == .updaterCheck)
      match w.subscribe c bridge (.record name r (reactionsOf step)) abandon with
      | (.active s, w) =>
        let w := { w with handles := rebind w.handles name (.callback s) }
        let answer := subscriptionAnswer w s
        (if abandon then withMember answer "abandoned" (.bool false) else answer, w)
      | (.abandoned, w) => (Json.object [("abandoned", .bool true)], w)
      | (.failed e, w) => (registrationAnswer c e, w)

/-- Runs `stream`. -/
def streamStep (w : World) (step : Json) : Json × World :=
  match channelOf step "channel" with
  | .error a => refuse w a
  | .ok c =>
    match freshName w step with
    | .error a => refuse w a
    | .ok name =>
      let (q, w) := w.addQueue
      match w.subscribe c (.named (bridgeOf step)) (.queue q) false with
      | (.active s, w) =>
        let w := { w with handles := rebind w.handles name (.stream s q) }
        (subscriptionAnswer w s, w)
      | (.abandoned, w) => (Json.object [("abandoned", .bool true)], w)
      | (.failed e, w) => (registrationAnswer c e, w)

/-- Runs `next` or `poll` on a stream. -/
def nextStep (w : World) (step : Json) : Json × World :=
  let name := textOf step "sub"
  match w.handles.lookup name with
  | some (.stream s q) =>
    match w.dequeue q with
    | (some p, w) => (Json.object [("item", p.encode)], w)
    | (none, w) =>
      if w.queueClosed q || !w.isHeld s.listener then (Json.object [("end", .bool true)], w)
      else (Json.object [("pending", .bool true)], w)
  | _ => refuse w (Answer.error "NoSuchHandle" name [])

/-- Runs `listen_raw`. -/
def listenRawStep (w : World) (step : Json) : Json × World :=
  match channelOf step "channel" with
  | .error a => refuse w a
  | .ok c =>
    let name := textOf step "as"
    if name = "" || (w.raws.lookup name).isSome then refuse w (Answer.error "DuplicateHandle" name [])
    else
      let (l, w) := w.addListener (.raw name)
      match w.hostListen c l with
      | (.ok id, w) =>
        let w := { w with raws := rebind w.raws name l }
        (Json.object [("registration", Json.ofNat id), ("active", .bool (w.isActive l))], w)
      | (.error e, w) => (hostErrorAnswer e, w)

/-- Hands an envelope to the host: a broadcasting host gives it to every listener, any other host
delivers it through its local table. -/
def deliverStep (w : World) (e : Envelope) : Json × World :=
  let (n, w) := match w.host with
    | .broadcast fan _ => w.deliverTo fan.listeners e
    | _ => w.deliverLocal e
  (Json.object [("invoked", Json.ofNat n)], w)

/-- The refusal of a typed emit by a broadcasting host, given before the payload is read. -/
def typedEmitRefusal : Json := Answer.error "Unsupported" "typed emit needs a local host" []

/-- Emits a typed payload; only a local table can. -/
def emitTyped (w : World) (p : Payload) : Json × World :=
  match w.host with
  | .broadcast _ _ => refuse w typedEmitRefusal
  | _ =>
    let (n, w) := w.emitLocal p.channel p.encode
    (Json.object [("invoked", Json.ofNat n)], w)

/-- Reads one item of a `dispatch` step. -/
def outgoingOf (event : Json) : Except Json Outgoing :=
  match event.get? "envelope" with
  | some e =>
    match Envelope.decode e with
    | .ok e => .ok (.envelope e)
    | .error err => .error (Answer.decodeError err)
  | none =>
    match channelOf event "channel" with
    | .error a => .error a
    | .ok c =>
      let payload := event.field "payload"
      if event.field "typed" == .bool true then
        match Payload.decode c payload with
        | .ok p => .ok (.payload c p.encode)
        | .error err => .error (Answer.decodeError err)
      else .ok (.payload c payload)

/-- The largest dispatch queue a session may ask for: `2^20` envelopes. -/
def dispatchCapacityLimit : Nat := 2 ^ 20

/-- Runs `dispatch`; a queue larger than `dispatchCapacityLimit` is refused. -/
def dispatchStep (w : World) (step : Json) : Json × World :=
  match (step.field "capacity").nat? with
  | none => refuse w (Answer.badInput "capacity must be an unsigned integer")
  | some capacity =>
    if capacity > dispatchCapacityLimit then refuse w (Answer.badInput "capacity too large for the driver")
    else
      let events := (step.field "events").arr?.getD []
      let (results, w) := w.dispatch capacity (step.field "abort" == .bool true) (events.map outgoingOf)
      let answers := results.map fun
        | .ok () => Json.str "ok"
        | .error (.inl a) => a
        | .error (.inr e) => hostErrorAnswer e
      (Json.object [("results", .arr answers)], w)

/-- Runs `debug`: a raw listener named by a string `raw`, else the handle named by `sub` when it is
given (a `sub` that is not a string names no handle), else the local table. -/
def debugStep (w : World) (step : Json) : Json × World :=
  let text (s : String) : Json := Json.object [("debug", .str s)]
  match (step.get? "raw").bind Json.str?, step.get? "sub" with
  | some name, _ =>
    match w.raws.lookup name with
    | some l => (text (listenerDebug w l), w)
    | none => refuse w (Answer.error "NoSuchHandle" name [])
  | none, some sub =>
    if sub == .null then (text (tableDebug w.host.table), w)
    else
      let name := sub.str?.getD ""
      match w.handles.lookup name with
      | some h => (text (subscriptionDebug w h.subscription), w)
      | none => refuse w (Answer.error "NoSuchHandle" name [])
  | none, none => (text (tableDebug w.host.table), w)

/-- The operations a session step can name. -/
inductive Op where
  | subscribe
  | subscribeAbandon
  | stream
  | next
  | cancel
  | state
  | drop
  | emitRaw
  | emit
  | emitTerminal
  | deliver
  | listenerCount
  | unlisten
  | close
  | isClosed
  | stats
  | hostCounts
  | dispatch
  | received
  | listenRaw
  | retire
  | debug
  deriving DecidableEq, Repr

/-- The op a step's `op` text names, if any; `next` and `poll` name the same op. -/
def Op.ofName? : String → Option Op
  | "subscribe" => some .subscribe
  | "subscribe_abandon" => some .subscribeAbandon
  | "stream" => some .stream
  | "next" => some .next
  | "poll" => some .next
  | "cancel" => some .cancel
  | "state" => some .state
  | "drop" => some .drop
  | "emit_raw" => some .emitRaw
  | "emit" => some .emit
  | "emit_terminal" => some .emitTerminal
  | "deliver" => some .deliver
  | "listener_count" => some .listenerCount
  | "unlisten" => some .unlisten
  | "close" => some .close
  | "is_closed" => some .isClosed
  | "stats" => some .stats
  | "host_counts" => some .hostCounts
  | "dispatch" => some .dispatch
  | "received" => some .received
  | "listen_raw" => some .listenRaw
  | "retire" => some .retire
  | "debug" => some .debug
  | _ => none

/-- Runs one step of op `o`. -/
def runOp (w : World) (o : Op) (step : Json) : Json × World :=
  match o with
  | .subscribe => subscribeStep w step false
  | .subscribeAbandon => subscribeStep w step true
  | .stream => streamStep w step
  | .next => nextStep w step
  | .cancel =>
    match handleOf w step with
    | .ok h =>
      let w := w.cancelHandle h
      (subscriptionAnswer w h.subscription, w)
    | .error a => refuse w a
  | .state =>
    match handleOf w step with
    | .ok h => (subscriptionAnswer w h.subscription, w)
    | .error a => refuse w a
  | .drop =>
    let (dropped, w) := w.dropHandle (textOf step "sub")
    (Json.object [("dropped", .bool dropped)], w)
  | .emitRaw =>
    match channelOf step "channel" with
    | .error a => refuse w a
    | .ok c =>
      match w.host with
      | .broadcast _ _ => deliverStep w ⟨0, c, World.epoch, step.field "payload"⟩
      | _ =>
        let (n, w) := w.emitLocal c (step.field "payload")
        (Json.object [("invoked", Json.ofNat n)], w)
  | .emit =>
    match channelOf step "channel" with
    | .error a => refuse w a
    | .ok c =>
      match w.host, Payload.decode c (step.field "payload") with
      | .broadcast _ _, _ => refuse w typedEmitRefusal
      | _, .ok p => emitTyped w p
      | _, .error err => refuse w (Answer.decodeError err)
  | .emitTerminal =>
    emitTyped w (.terminal ⟨textOf step "workspace_id", textOf step "terminal_id", textOf step "data"⟩)
  | .deliver =>
    match Envelope.decode (step.field "envelope") with
    | .ok e => deliverStep w e
    | .error err => refuse w (Answer.decodeError err)
  | .listenerCount =>
    match channelOf step "channel" with
    | .error a => refuse w a
    | .ok c =>
      match w.host with
      | .broadcast fan _ => (Json.object [("count", Json.ofNat (fan.count c w.isActive))], w)
      | _ =>
        let (n, w) := w.liveCount c
        (Json.object [("count", Json.ofNat n)], w)
  | .unlisten =>
    match channelOf step "channel" with
    | .error a => refuse w a
    | .ok c =>
      match (step.field "registration").nat? with
      | some id =>
        let (found, w) := w.hostUnlisten c id
        (Json.object [("removed", .bool found)], w)
      | none => refuse w (Answer.badInput "registration must be an unsigned integer")
  | .close =>
    match w.host with
    | .broadcast _ _ => refuse w (Answer.error "Unsupported" "close needs a local host" [])
    | _ => (Json.object [("closed", .bool true)], w.closeTable)
  | .isClosed => (Json.object [("closed", .bool w.host.table.closed)], w)
  | .stats => (statsAnswer (w.stats (bridgeOf step)), w)
  | .hostCounts => (Json.object (w.host.counts.map fun (k, n) => (k, Json.ofNat n)), w)
  | .dispatch => dispatchStep w step
  | .received =>
    let name := textOf step "sub"
    match (w.recordings.lookup name).bind fun r => w.records[r]? with
    | some r => (recordingAnswer r, w)
    | none => refuse w (Answer.error "NoSuchHandle" name [])
  | .listenRaw => listenRawStep w step
  | .retire =>
    let name := textOf step "raw"
    match w.raws.lookup name with
    | some l =>
      let w := w.retire l
      (Json.object [("active", .bool (w.isActive l))], w)
    | none => refuse w (Answer.error "NoSuchHandle" name [])
  | .debug => debugStep w step

/-- Runs one step whose `op` is `op`; an op no name stands for is refused. -/
def runStep (w : World) (op : String) (step : Json) : Json × World :=
  match Op.ofName? op with
  | some o => runOp w o step
  | none => refuse w (Answer.error "UnknownOp" op [])

/-- Runs one step and adds the listener calls it made to its answer. -/
def sessionStep (w : World) (step : Json) : Json × World :=
  let op := ((step.get? "op").bind Json.str?).getD ""
  let (answer, w) := runStep { w with deliveries := #[] } op step
  (withMember answer "deliveries" (.arr (w.deliveries.toList.map deliveryAnswer)), w)

/-- Runs the steps of a session on a world; returns the answers and the final world. -/
def runSession (w : World) (steps : List Json) : List Json × World :=
  let (answers, w) := steps.foldl (fun (acc, w) step =>
    let (a, w) := sessionStep w step
    (acc.push a, w)) (#[], w)
  (answers.toList, w)

/-- Answers a session request; also returns the world it ended in, once finished, if it ran. -/
def session (req : Json) : Json × Option World :=
  match hostOf req with
  | .error a => (a, none)
  | .ok host =>
    let (answers, w) := runSession (World.start host) ((req.field "steps").arr?.getD [])
    (Json.object [("steps", .arr answers)], some w.endSession)

end Protocol

end ChannelBridge
