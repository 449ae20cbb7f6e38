import ChannelBridge.Session.World

/-! # Registering, delivering and cancelling

The operations of the bridge and the local host on a session's world.

* `subscribe` makes a listener, registers it and, once the host acknowledges, hands back a
  subscription. A refused registration retires the listener; so does one abandoned before its
  acknowledgement.
* `cancel` retires a subscription's listener and removes its registration, once.
* `deliverLocal` prunes the retired registrations of the envelope's channel and calls the live
  listeners in registration order. The list is taken before the first call, and each listener is
  checked again just before its call, so a listener retired by an earlier call is skipped and not
  counted.
* A bridge handler drops an envelope of another channel, or one whose payload does not decode, and
  counts it as malformed; otherwise the payload reaches the sink and counts as delivered.
* `endSession` ends a session by dropping its handles, which cancels them: first the callback
  subscriptions, then the streams, each kind in name order. A recording callback still registered
  with the host keeps every callback subscription alive past the end; streams are dropped anyway.
-/

namespace ChannelBridge

namespace World

/-- Stores a registration on the host, logging it when a local table took it. -/
def hostRegister (w : World) (c : Channel) (l : Nat) : Except HostError Nat × World :=
  let (r, host) := w.host.register c l
  let w := w.setHost host
  match r with
  | .ok id => (r, if host.registersLocally then w.logEvent (.listenerRegistered c id) else w)
  | .error _ => (r, w)

/-- Registering through the world is the host's registration; only the host and the log change. -/
theorem hostRegister_eq {w w' : World} {c : Channel} {l : Nat} {r : Except HostError Nat}
    (h : w.hostRegister c l = (r, w')) :
    (w.host.register c l).1 = r ∧ w'.host = (w.host.register c l).2 ∧
    w'.listeners = w.listeners ∧ w'.handles = w.handles ∧ w'.queues = w.queues := by
  unfold hostRegister at h
  rcases hr : w.host.register c l with ⟨_ | id, host⟩ <;> rw [hr] at h
  · cases h
    simp
  · dsimp only at h
    split at h <;> cases h <;> simp

/-- Registers a listener and waits for the acknowledgement. -/
def hostListen (w : World) (c : Channel) (l : Nat) : Except HostError Nat × World :=
  match w.hostRegister c l with
  | (.ok id, w') => (.ok id, w'.setHost w'.host.acknowledge)
  | other => other

/-- Registering and waiting changes no listener, handle or queue. -/
theorem hostListen_eq {w w' : World} {c : Channel} {l : Nat} {r : Except HostError Nat}
    (h : w.hostListen c l = (r, w')) :
    w'.listeners = w.listeners ∧ w'.handles = w.handles ∧ w'.queues = w.queues := by
  unfold hostListen at h
  rcases hreg : w.hostRegister c l with ⟨_ | id, w₁⟩ <;> rw [hreg] at h <;> cases h
  all_goals
    obtain ⟨-, -, hl, hh, hq⟩ := hostRegister_eq hreg
    exact ⟨hl, hh, hq⟩

/-- Removes a registration from the host; says whether the host had it. -/
def hostUnlisten (w : World) (c : Channel) (id : Nat) : Bool × World :=
  let (found, host) := w.host.unlisten c id
  (found, w.setHost host)

/-- Cancels a subscription. The first call retires the listener, removes the registration from the
host, counts the cancellation and logs it; a subscription whose listener is already retired is
left as it is. -/
def cancel (w : World) (s : Subscription) : World :=
  if w.isActive s.listener then
    let (removed, w) := (w.retire s.listener).hostUnlisten s.channel s.registration
    let w := w.bump s.bridge fun st => { st with cancelled := st.cancelled + 1 }
    w.logEvent (.subscriptionCancelled s.channel s.registration removed)
  else w

/-- Cancelling a subscription whose listener is already retired changes nothing. -/
theorem cancel_of_inactive {w : World} {s : Subscription} (h : w.isActive s.listener = false) :
    w.cancel s = w := by
  simp [cancel, h]

@[simp] theorem handles_cancel (w : World) (s : Subscription) : (w.cancel s).handles = w.handles := by
  unfold cancel
  split
  · cases s.bridge <;> rfl
  · rfl

@[simp] theorem queues_cancel (w : World) (s : Subscription) : (w.cancel s).queues = w.queues := by
  unfold cancel
  split
  · cases s.bridge <;> rfl
  · rfl

@[simp] theorem records_cancel (w : World) (s : Subscription) : (w.cancel s).records = w.records := by
  unfold cancel
  split
  · cases s.bridge <;> rfl
  · rfl

@[simp] theorem deliveries_cancel (w : World) (s : Subscription) :
    (w.cancel s).deliveries = w.deliveries := by
  unfold cancel
  split
  · cases s.bridge <;> rfl
  · rfl

/-- Cancelling an active subscription removes its registration from the host. -/
theorem host_cancel (w : World) (s : Subscription) :
    (w.cancel s).host =
      if w.isActive s.listener then (w.host.unlisten s.channel s.registration).2 else w.host := by
  unfold cancel
  split
  · cases s.bridge <;> rfl
  · rfl

/-- Cancelling an active subscription retires its listener. -/
theorem listeners_cancel (w : World) (s : Subscription) :
    (w.cancel s).listeners =
      if w.isActive s.listener then (w.retire s.listener).listeners else w.listeners := by
  unfold cancel
  split
  · cases s.bridge <;> rfl
  · rfl

/-- After a cancellation the subscription's listener is retired, whether or not it was active. -/
@[simp] theorem isActive_cancel_self (w : World) (s : Subscription) :
    (w.cancel s).isActive s.listener = false := by
  by_cases hact : w.isActive s.listener = true
  · have hl : (w.cancel s).listeners = (w.retire s.listener).listeners := by
      rw [listeners_cancel, if_pos hact]
    rw [isActive_congr hl, isActive_retire_self]
  · have hl : (w.cancel s).listeners = w.listeners := by
      rw [listeners_cancel, if_neg hact]
    rw [isActive_congr hl]
    simpa using hact

/-- Cancels a handle; a stream also closes its queue. -/
def cancelHandle (w : World) : Handle → World
  | .callback s => w.cancel s
  | .stream s q => (w.cancel s).closeQueue q

@[simp] theorem handles_cancelHandle (w : World) (h : Handle) :
    (w.cancelHandle h).handles = w.handles := by
  cases h <;> simp [cancelHandle]

@[simp] theorem size_queues_cancelHandle (w : World) (h : Handle) :
    (w.cancelHandle h).queues.size = w.queues.size := by
  cases h <;> simp [cancelHandle]

/-- Removes the handle under `name` and cancels it; says whether there was one. -/
def dropHandle (w : World) (name : String) : Bool × World :=
  match w.handles.lookup name with
  | some h => (true, ({ w with handles := unbind w.handles name }).cancelHandle h)
  | none => (false, w)

/-- Whether a listener belongs to a recording callback: its handler hands payloads to a recording. -/
def recordsPayloads (w : World) (l : Nat) : Bool :=
  match w.listeners[l]? with
  | some ⟨_, .typed _ _ (.record ..)⟩ => true
  | _ => false

/-- Whether the callback subscriptions outlive the session. A recording callback can reach them
(its reactions cancel and drop them by name), and each of them reaches the host; so while the host
still holds a recording callback's registration, they, the host and that callback keep one another
alive. Streams are kept apart from them, and nothing a callback reaches holds a stream. -/
def callbacksOutliveEnd (w : World) : Bool := w.host.held.any w.recordsPayloads

/-- The names of the handles of one kind, in name order. -/
def handleNames (w : World) (isStream : Bool) : List String :=
  ((w.handles.filter fun (_, h) => h.isStream == isStream).map (·.1)).mergeSort fun a b => !(b < a)

/-- Drops the handles under the given names, in order. -/
def dropAll (w : World) (names : List String) : World :=
  names.foldl (fun w name => (w.dropHandle name).2) w

/-- Ends a session: drops the callback subscriptions, unless they outlive the session, and then the
streams, each in name order. Dropping cancels each one that is still active. -/
def endSession (w : World) : World :=
  let w := if w.callbacksOutliveEnd then w else w.dropAll (w.handleNames false)
  w.dropAll (w.handleNames true)

/-- Closes the local table: later registrations are refused, every listener it held is retired,
and the number of channels that had registrations is logged. -/
def closeTable (w : World) : World :=
  let ((held, channels), t) := w.host.table.close
  let w := held.foldl retire (w.setTable t)
  w.logEvent (.hostClosed channels)

/-- Closing the table retires every listener it held. -/
theorem closeTable_eq (w : World) : w.closeTable =
    (w.host.table.listeners.foldl retire (w.setTable w.host.table.close.2)).logEvent
      (.hostClosed w.host.table.entryCount) := rfl

/-- Runs one reaction of a recording callback. Reactions reach callback subscriptions only: a name
that is free or held by a stream is left alone. -/
def react (w : World) : Reaction → World
  | .cancel name =>
    match w.handles.lookup name with
    | some (.callback s) => w.cancel s
    | _ => w
  | .drop name =>
    match w.handles.lookup name with
    | some (.callback _) => (w.dropHandle name).2
    | _ => w
  | .close => w.closeTable

/-- Hands a decoded payload to a sink; `false` when the sink no longer takes payloads. -/
def sinkPayload (w : World) (p : Payload) : Sink → Bool × World
  | .record handle r reactions =>
    let w := (w.recordPayload r p).deliverCall (.payload handle p)
    (true, reactions.foldl react w)
  | .queue q =>
    if w.queueClosed q then (false, w) else (true, w.enqueue q p)

/-- The handler of a bridge subscription on channel `c`. -/
def unwrap (w : World) (c : Channel) (b : BridgeRef) (sink : Sink) (e : Envelope) : World :=
  let malformed (w : World) : World := w.bump b fun st => { st with malformed := st.malformed + 1 }
  if e.channel ≠ c then
    (malformed w).logEvent (.droppingEnvelope "envelope delivered on the wrong channel" none)
  else
    match Payload.decode c e.payload with
    | .error err => (malformed w).logEvent (.droppingEnvelope "malformed payload" (some err.message))
    | .ok p =>
      let (taken, w) := w.sinkPayload p sink
      if taken then w.bump b fun st => { st with delivered := st.delivered + 1 } else w

/-- Runs listener `l`'s handler on an envelope. -/
def invoke (w : World) (l : Nat) (e : Envelope) : World :=
  match w.listeners[l]? with
  | some ⟨_, .typed c b sink⟩ => w.unwrap c b sink e
  | some ⟨_, .raw handle⟩ => w.deliverCall (.raw handle e)
  | none => w

/-- Calls each listener of `targets` that is active when its turn comes; returns how many ran. -/
def deliverTo (w : World) (targets : List Nat) (e : Envelope) : Nat × World :=
  targets.foldl (fun (n, w) l => if w.isActive l then (n + 1, w.invoke l e) else (n, w)) (0, w)

/-- Delivers an envelope through the local table: prunes the channel's retired registrations, logs
the delivery and calls the live listeners in registration order. -/
def deliverLocal (w : World) (e : Envelope) : Nat × World :=
  let (live, t) := w.host.table.prune e.channel w.isActive
  let w := (w.setTable t).logEvent (.deliveringEnvelope e.channel e.id live.length)
  w.deliverTo live e

/-- The session has no wall clock: envelopes it makes are stamped with the epoch. -/
def epoch : Timestamp := ⟨0, 0, 0⟩

/-- Emits a payload on the local table with the next event id. -/
def emitLocal (w : World) (c : Channel) (payload : Json) : Nat × World :=
  let (id, t) := w.host.table.nextEvent
  (w.setTable t).deliverLocal ⟨id, c, epoch, payload⟩

/-- The number of live registrations on `c`, pruning the retired ones. -/
def liveCount (w : World) (c : Channel) : Nat × World :=
  let (live, t) := w.host.table.prune c w.isActive
  (live.length, w.setTable t)

/-- What registering a subscription came to. -/
inductive Registered where
  /-- Acknowledged: the subscription. -/
  | active (s : Subscription)
  /-- Given up before the acknowledgement came. -/
  | abandoned
  /-- Refused by the host. -/
  | failed (e : HostError)

/-- Registers a bridge subscription on `c` that passes payloads to `sink` and counts on `b`. With
`abandon`, a registration that would wait for an acknowledgement is given up instead. -/
def subscribe (w : World) (c : Channel) (b : BridgeRef) (sink : Sink) (abandon : Bool) :
    Registered × World :=
  let (l, w) := w.addListener (.typed c b sink)
  match w.hostRegister c l with
  | (.error e, w) =>
    let w := w.logEvent (.registrationFailed c e)
    (.failed e, (w.retire l).logEvent .registrationAbandoned)
  | (.ok id, w) =>
    if abandon && w.host.acknowledgesLater then
      (.abandoned, (w.retire l).logEvent .registrationAbandoned)
    else
      let w := w.setHost w.host.acknowledge
      let w := w.bump b fun st => { st with registered := st.registered + 1 }
      (.active ⟨c, id, l, b⟩, w.logEvent (.subscriptionActive c id))

end World

end ChannelBridge
