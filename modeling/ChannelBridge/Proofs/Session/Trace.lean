import ChannelBridge.Proofs.Session.Safety

/-! # The trace of a session

A bridge's counters and a stream's items answer for what happened over a whole session: which
subscribes came out active, which cancellations found their subscription still active, which
handlers ran on which envelopes, and what each read of a stream took. The world keeps none of this
history, so this file lists it, in order, as the marks of a session.

Each `…Marks` function takes the branches of the operation of the same name and reads the worlds
that operation passes through; the worlds are the operation's own, so the marks of a session
(`sessionMarks`) are those of the run `Protocol.runSession` makes. A mark is made where the
operation acts: a subscription that came out active, the retiring branch of `cancel`, the return
of a listener's handler in `invoke`, and a `next` that took an item.

* `Mark.count`: what the marks add to a named bridge's counters.
* `Mark.takenFrom`, `Mark.decodedBy`: what reads of a queue took, and what a listener decoded.
-/

namespace ChannelBridge

/-- An event of a session that the counters or the streams answer for. -/
inductive Mark where
  /-- A subscribe or stream step came out active with this subscription. -/
  | subscribed (s : Subscription)
  /-- The first cancellation of a subscription, found active. -/
  | cancelled (s : Subscription)
  /-- Listener `l`, with handler `h`, ran on an envelope. -/
  | ran (l : Nat) (h : Handler) (e : Envelope)
  /-- A read of stream queue `q` took a payload. -/
  | took (q : Nat) (p : Payload)

/-- Whether an envelope is on channel `c` and its payload decodes for it: what a bridge handler on
`c` takes, and any other envelope it drops. -/
def Envelope.fits (e : Envelope) (c : Channel) : Bool :=
  e.channel == c && (Payload.decode c e.payload).toOption.isSome

/-! ## What marks add up to -/

namespace BridgeStats

/-- Counters add field by field, each as a 64-bit word. -/
instance : Add BridgeStats :=
  ⟨fun a b => ⟨a.registered + b.registered, a.cancelled + b.cancelled, a.delivered + b.delivered,
    a.malformed + b.malformed⟩⟩

theorem add_def (a b : BridgeStats) : a + b = ⟨a.registered + b.registered,
    a.cancelled + b.cancelled, a.delivered + b.delivered, a.malformed + b.malformed⟩ := rfl

@[simp] theorem add_zero (a : BridgeStats) : a + .zero = a := by
  simp only [add_def, zero, UInt64.add_zero]

theorem add_assoc (a b c : BridgeStats) : a + b + c = a + (b + c) := by
  simp only [add_def, UInt64.add_assoc]

end BridgeStats

namespace Mark

/-- A subscription through the bridge named `name` came out active. -/
def registers (name : String) : Mark → Bool
  | .subscribed s => s.bridge == .named name
  | _ => false

/-- A subscription through the bridge named `name` was cancelled while active. -/
def cancels (name : String) : Mark → Bool
  | .cancelled s => s.bridge == .named name
  | _ => false

/-- A handler of the bridge named `name` ran on an envelope it takes. -/
def delivers (name : String) : Mark → Bool
  | .ran _ (.typed c b _) e => b == .named name && e.fits c
  | _ => false

/-- A handler of the bridge named `name` ran on an envelope it drops. -/
def rejects (name : String) : Mark → Bool
  | .ran _ (.typed c b _) e => b == .named name && !e.fits c
  | _ => false

/-- What marks add to the counters of the bridge named `name`: each count as a 64-bit word, so
modulo `2 ^ 64`. -/
def count (name : String) (ms : List Mark) : BridgeStats :=
  ⟨.ofNat (ms.countP (registers name)), .ofNat (ms.countP (cancels name)),
    .ofNat (ms.countP (delivers name)), .ofNat (ms.countP (rejects name))⟩

@[simp] theorem count_nil (name : String) : count name [] = .zero := rfl

/-- The counts of two runs add up as words: one reduction of the sum is the sum of the reductions. -/
theorem count_append (name : String) (ms ms' : List Mark) :
    count name (ms ++ ms') = count name ms + count name ms' := by
  simp only [count, List.countP_append, UInt64.ofNat_add, BridgeStats.add_def]

/-- The payload a read of queue `q` took. -/
def takenFrom (q : Nat) : Mark → Option Payload
  | .took q' p => if q' = q then some p else none
  | _ => none

/-- The payload listener `l` decoded for channel `c` in a run of its handler. -/
def decodedBy (l : Nat) (c : Channel) : Mark → Option Payload
  | .ran l' _ e => if l' = l ∧ e.channel = c then (Payload.decode c e.payload).toOption else none
  | _ => none

/-- The subscription a cancellation mark is about. -/
def cancelledSub : Mark → Option Subscription
  | .cancelled s => some s
  | _ => none

/-- The subscription a registration mark is about. -/
def subscribedSub : Mark → Option Subscription
  | .subscribed s => some s
  | _ => none

end Mark

namespace World

/-! ## Marks of the operations on a world -/

/-- A cancellation marks the subscription when it was still active. -/
def cancelMarks (w : World) (s : Subscription) : List Mark :=
  if w.isActive s.listener then [.cancelled s] else []

/-- Dropping the handle under `name` marks what cancelling it does. -/
def dropMarks (w : World) (name : String) : List Mark :=
  match w.handles.lookup name with
  | some h => { w with handles := unbind w.handles name }.cancelMarks h.subscription
  | none => []

def reactMarks (w : World) : Reaction → List Mark
  | .cancel name =>
    match w.handles.lookup name with
    | some (.callback s) => w.cancelMarks s
    | _ => []
  | .drop name =>
    match w.handles.lookup name with
    | some (.callback _) => w.dropMarks name
    | _ => []
  | .close => []

def reactionsMarks (w : World) : List Reaction → List Mark
  | [] => []
  | r :: rs => w.reactMarks r ++ (w.react r).reactionsMarks rs

def sinkMarks (w : World) (p : Payload) : Sink → List Mark
  | .record handle r reactions =>
    ((w.recordPayload r p).deliverCall (.payload handle p)).reactionsMarks reactions
  | .queue _ => []

def unwrapMarks (w : World) (c : Channel) (sink : Sink) (e : Envelope) : List Mark :=
  if e.channel ≠ c then []
  else
    match Payload.decode c e.payload with
    | .error _ => []
    | .ok p => w.sinkMarks p sink

/-- A call of listener `l` marks what the reactions of its handler do, and then the run of the
handler, which is counted when the handler returns. -/
def invokeMarks (w : World) (l : Nat) (e : Envelope) : List Mark :=
  match w.listeners[l]? with
  | some ⟨_, .typed c b sink⟩ => w.unwrapMarks c sink e ++ [.ran l (.typed c b sink) e]
  | some ⟨_, .raw handle⟩ => [.ran l (.raw handle) e]
  | none => []

def deliverToMarks (w : World) (e : Envelope) : List Nat → List Mark
  | [] => []
  | l :: ls =>
    if w.isActive l then w.invokeMarks l e ++ (w.invoke l e).deliverToMarks e ls
    else w.deliverToMarks e ls

def deliverLocalMarks (w : World) (e : Envelope) : List Mark :=
  let (live, t) := w.host.table.prune e.channel w.isActive
  ((w.setTable t).logEvent (.deliveringEnvelope e.channel e.id live.length)).deliverToMarks e live

def emitLocalMarks (w : World) (c : Channel) (payload : Json) : List Mark :=
  let (id, t) := w.host.table.nextEvent
  (w.setTable t).deliverLocalMarks ⟨id, c, epoch, payload⟩

def deliverAllMarks (w : World) : List Envelope → List Mark
  | [] => []
  | e :: rest => w.deliverLocalMarks e ++ (w.deliverLocal e).2.deliverAllMarks rest

def runDispatcherMarks (w : World) (d : Dispatcher) : List Mark :=
  (if d.started then w else w.logEvent (.dispatcherStarted d.capacity)).deliverAllMarks d.queue

def sendMarks (w : World) (d : Dispatcher) (o : Outgoing) : List Mark :=
  let (_, w) := w.envelopeOf o
  if d.running then
    if d.queue.length < d.capacity then [] else w.runDispatcherMarks d
  else []

def finishMarks (w : World) (d : Dispatcher) : List Mark :=
  if d.running then w.runDispatcherMarks d else []

/-- The marks of the sends of a dispatch, item by item, and of the wait for its task. -/
def sendAllMarks {ε : Type} (w : World) (d : Dispatcher) : List (Except ε Outgoing) → List Mark
  | [] => w.finishMarks d
  | .error _ :: rest => w.sendAllMarks d rest
  | .ok o :: rest => w.sendMarks d o ++ (w.send d o).2.1.sendAllMarks (w.send d o).2.2 rest

def dispatchMarks {ε : Type} (w : World) (capacity : Nat) (abort : Bool)
    (items : List (Except ε Outgoing)) : List Mark :=
  let d := Dispatcher.spawn capacity
  w.sendAllMarks (if abort then d.abort else d) items

/-! ## The worlds the marks follow

A delivery and a dispatch carry a count or answers beside the world; the world they pass through
is the one the marks follow. -/

/-- The world part of a delivery does not depend on the count it starts from. -/
theorem snd_foldl_turn (e : Envelope) (ls : List Nat) (k : Nat) (w : World) :
    (ls.foldl (turn e) (k, w)).2 = (w.deliverTo ls e).2 := by
  induction ls generalizing k w with
  | nil => rfl
  | cons l rest ih =>
    rw [deliverTo_eq_foldl, List.foldl_cons, List.foldl_cons]
    cases hact : w.isActive l with
    | false => rw [turn_of_inactive e k hact, turn_of_inactive e 0 hact, ih, ih]
    | true => rw [turn_of_active e k hact, turn_of_active e 0 hact, ih, ih]

theorem deliverTo_cons (w : World) (l : Nat) (ls : List Nat) (e : Envelope) :
    (w.deliverTo (l :: ls) e).2 =
      if w.isActive l then ((w.invoke l e).deliverTo ls e).2 else (w.deliverTo ls e).2 := by
  rw [deliverTo_eq_foldl, List.foldl_cons]
  cases hact : w.isActive l with
  | false => rw [turn_of_inactive e 0 hact, snd_foldl_turn, if_neg (by simp)]
  | true => rw [turn_of_active e 0 hact, snd_foldl_turn, if_pos rfl]

/-- The world and dispatcher after the sends of a dispatch, before the wait for its task. -/
def sendAll {ε : Type} (w : World) (d : Dispatcher) : List (Except ε Outgoing) → World × Dispatcher
  | [] => (w, d)
  | .error _ :: rest => w.sendAll d rest
  | .ok o :: rest => (w.send d o).2.1.sendAll (w.send d o).2.2 rest

/-- A fold that sends each item it is given, carrying anything else beside, ends where the sends
end. -/
theorem snd_foldl_sends {ε σ : Type}
    (F : σ × World × Dispatcher → Except ε Outgoing → σ × World × Dispatcher)
    (hF : ∀ acc item, (F acc item).2 = match item with
      | .error _ => acc.2
      | .ok o => (acc.2.1.send acc.2.2 o).2)
    (items : List (Except ε Outgoing)) (acc : σ × World × Dispatcher) :
    (items.foldl F acc).2 = acc.2.1.sendAll acc.2.2 items := by
  induction items generalizing acc with
  | nil => rfl
  | cons item rest ih =>
    rw [List.foldl_cons, ih, hF]
    cases item <;> rfl

theorem dispatch_snd {ε : Type} (w : World) (capacity : Nat) (abort : Bool)
    (items : List (Except ε Outgoing)) :
    (w.dispatch capacity abort items).2 =
      (w.sendAll (if abort then (Dispatcher.spawn capacity).abort else Dispatcher.spawn capacity)
        items).1.finish
      (w.sendAll (if abort then (Dispatcher.spawn capacity).abort else Dispatcher.spawn capacity)
        items).2 := by
  unfold dispatch
  refine congrArg (fun r : World × Dispatcher => r.1.finish r.2)
    (snd_foldl_sends _ (fun acc item => ?_) items _)
  -- a refused send and an accepted one both leave the world and dispatcher the send made
  obtain ⟨out, w, d⟩ := acc
  cases item with
  | error x => rfl
  | ok o =>
    dsimp only
    split <;> next heq => rw [heq]

end World

/-! ## Marks of the steps of a session -/

namespace Protocol

/-- Registering marks the subscription when it came out active. -/
def registeredMarks : World.Registered → List Mark
  | .active s => [.subscribed s]
  | _ => []

def subscribeStepMarks (w : World) (step : Json) (abandon : Bool) : List Mark :=
  match channelOf step "channel" with
  | .error _ => []
  | .ok c =>
    match freshName w step with
    | .error _ => []
    | .ok name =>
      let bridge : BridgeRef :=
        if step.field "free" == .bool true then .unnamed else .named (bridgeOf step)
      let (r, w) := w.addRecording name (c == .updaterCheck)
      registeredMarks (w.subscribe c bridge (.record name r (reactionsOf step)) abandon).1

def streamStepMarks (w : World) (step : Json) : List Mark :=
  match channelOf step "channel" with
  | .error _ => []
  | .ok c =>
    match freshName w step with
    | .error _ => []
    | .ok _ =>
      let (q, w) := w.addQueue
      registeredMarks (w.subscribe c (.named (bridgeOf step)) (.queue q) false).1

def nextStepMarks (w : World) (step : Json) : List Mark :=
  match w.handles.lookup (textOf step "sub") with
  | some (.stream _ q) =>
    match (w.dequeue q).1 with
    | some p => [.took q p]
    | none => []
  | _ => []

def deliverStepMarks (w : World) (e : Envelope) : List Mark :=
  match w.host with
  | .broadcast fan _ => w.deliverToMarks e fan.listeners
  | _ => w.deliverLocalMarks e

def emitTypedMarks (w : World) (p : Payload) : List Mark :=
  match w.host with
  | .broadcast _ _ => []
  | _ => w.emitLocalMarks p.channel p.encode

def dispatchStepMarks (w : World) (step : Json) : List Mark :=
  match (step.field "capacity").nat? with
  | none => []
  | some capacity =>
    if capacity > dispatchCapacityLimit then []
    else
      let events := (step.field "events").arr?.getD []
      w.dispatchMarks capacity (step.field "abort" == .bool true) (events.map outgoingOf)

/-- The marks of one step of op `o`, branch by branch of `runOp`. Reading state, counting and the
host's own operations run no handler and cancel nothing. -/
def runOpMarks (w : World) (o : Op) (step : Json) : List Mark :=
  match o with
  | .subscribe => subscribeStepMarks w step false
  | .subscribeAbandon => subscribeStepMarks w step true
  | .stream => streamStepMarks w step
  | .next => nextStepMarks w step
  | .cancel =>
    match handleOf w step with
    | .ok h => w.cancelMarks h.subscription
    | .error _ => []
  | .drop => w.dropMarks (textOf step "sub")
  | .emitRaw =>
    match channelOf step "channel" with
    | .error _ => []
    | .ok c =>
      match w.host with
      | .broadcast _ _ => deliverStepMarks w ⟨0, c, World.epoch, step.field "payload"⟩
      | _ => w.emitLocalMarks c (step.field "payload")
  | .emit =>
    match channelOf step "channel" with
    | .error _ => []
    | .ok c =>
      match w.host, Payload.decode c (step.field "payload") with
      | .broadcast _ _, _ => []
      | _, .ok p => emitTypedMarks w p
      | _, .error _ => []
  | .emitTerminal =>
    emitTypedMarks w (.terminal ⟨textOf step "workspace_id", textOf step "terminal_id",
      textOf step "data"⟩)
  | .deliver =>
    match Envelope.decode (step.field "envelope") with
    | .ok e => deliverStepMarks w e
    | .error _ => []
  | .dispatch => dispatchStepMarks w step
  | .state | .listenerCount | .unlisten | .close | .isClosed | .stats | .hostCounts | .received
  | .listenRaw | .retire | .debug => []

/-- The marks of one step whose `op` is `op`; a step that names no op makes none. -/
def runStepMarks (w : World) (op : String) (step : Json) : List Mark :=
  match Op.ofName? op with
  | some o => runOpMarks w o step
  | none => []

/-- A step marks what the op its text names marks. -/
theorem runStepMarks_of_ofName? (w : World) {op : String} {o : Op} (step : Json)
    (h : Op.ofName? op = some o) : runStepMarks w op step = runOpMarks w o step := by
  unfold runStepMarks
  rw [h]

def sessionStepMarks (w : World) (step : Json) : List Mark :=
  runStepMarks { w with deliveries := #[] } (((step.get? "op").bind Json.str?).getD "") step

/-- The marks of a run of steps, step after step. -/
def sessionMarks (w : World) : List Json → List Mark
  | [] => []
  | step :: rest => sessionStepMarks w step ++ sessionMarks (sessionStep w step).2 rest

/-- A run of steps goes on from the world its first step leaves. -/
theorem runSession_cons (w : World) (step : Json) (rest : List Json) :
    (runSession w (step :: rest)).2 = (runSession (sessionStep w step).2 rest).2 := by
  rw [World.runSession_snd, World.runSession_snd]
  rfl

end Protocol

end ChannelBridge
