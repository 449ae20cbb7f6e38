import ChannelBridge.Host.Basic
import ChannelBridge.Envelope
import ChannelBridge.Telemetry.Catalog

/-! # The world of a session

A session runs bridges over one host. Its world holds:

* the host, with its registration tables;
* the listeners, numbered in creation order, each with its active flag and its handler;
* the counters of each named bridge;
* the named handles: subscriptions and streams, and raw listeners under names of their own;
* what the callbacks recorded, and the queues of the streams;
* the deliveries of the current step and every log event so far.

A listener's active flag is shared by everything that refers to it: the host's registration, the
subscription handle and the handler. Retiring a listener flips it once for all of them.
-/

namespace ChannelBridge

/-- The counters of a bridge: 64-bit words, each bumped by a wrapping increment. -/
structure BridgeStats where
  registered : UInt64
  cancelled : UInt64
  delivered : UInt64
  malformed : UInt64
  deriving DecidableEq, Repr

/-- All counters zero. -/
def BridgeStats.zero : BridgeStats := ⟨0, 0, 0, 0⟩

/-- Which counters a subscription reports to. -/
inductive BridgeRef where
  /-- A named bridge of the session. -/
  | named (name : String)
  /-- The bridge a one-off subscribe makes for itself; nobody reads its counters. -/
  | unnamed
  deriving DecidableEq, Repr

/-- Something a recording callback does after recording a payload. -/
inductive Reaction where
  /-- Cancels the callback subscription under a name, if there is one. -/
  | cancel (handle : String)
  /-- Removes the callback subscription under a name and cancels it. -/
  | drop (handle : String)
  /-- Closes the local host. -/
  | close
  deriving DecidableEq, Repr

/-- Where a subscription's decoded payloads go. -/
inductive Sink where
  /-- Recorded in recording `record` and reported under `handle`; then `reactions` run. -/
  | record (handle : String) (record : Nat) (reactions : List Reaction)
  /-- Queued on stream queue `queue`. -/
  | queue (queue : Nat)
  deriving DecidableEq, Repr

/-- What a listener does with an envelope. -/
inductive Handler where
  /-- A bridge handler: checks the channel, decodes the payload for it and passes it to the sink,
  counting on `bridge`. -/
  | typed (channel : Channel) (bridge : BridgeRef) (sink : Sink)
  /-- Reports the envelope as it is under a raw handle name. -/
  | raw (handle : String)
  deriving DecidableEq, Repr

/-- A listener: its handler and whether it is still active. -/
structure Listener where
  active : Bool
  handler : Handler
  deriving DecidableEq, Repr

/-- A subscription: the channel, the id the host gave, its listener and its counters. -/
structure Subscription where
  channel : Channel
  registration : Nat
  listener : Nat
  bridge : BridgeRef
  deriving DecidableEq, Repr

/-- A named handle. -/
inductive Handle where
  /-- A callback subscription. -/
  | callback (sub : Subscription)
  /-- A stream: its subscription and its queue. -/
  | stream (sub : Subscription) (queue : Nat)
  deriving DecidableEq, Repr

/-- The subscription behind a handle. -/
def Handle.subscription : Handle → Subscription
  | .callback s => s
  | .stream s _ => s

/-- Whether a handle is a stream. -/
def Handle.isStream : Handle → Bool
  | .callback _ => false
  | .stream _ _ => true

/-- The payloads a recording callback received, and for the updater-check channel the number of
calls. -/
structure Recording where
  payloads : Array Payload
  calls : Option Nat

/-- The receiving end of a stream: the payloads not yet read and whether it was closed. -/
structure StreamQueue where
  items : List Payload
  closed : Bool

/-- A listener call: a decoded payload given to a named subscription, or an envelope given to a
raw listener. -/
inductive Delivery where
  | payload (handle : String) (p : Payload)
  | raw (handle : String) (envelope : Envelope)

/-- The world of a session. -/
structure World where
  host : Host
  listeners : Array Listener
  bridges : List (String × BridgeStats)
  handles : List (String × Handle)
  raws : List (String × Nat)
  recordings : List (String × Nat)
  records : Array Recording
  queues : Array StreamQueue
  deliveries : Array Delivery
  events : Array LogEvent

/-- Binds `k` to `v` in a list of named values, replacing an earlier binding. -/
def rebind {α : Type} (xs : List (String × α)) (k : String) (v : α) : List (String × α) :=
  (k, v) :: xs.filter (·.1 != k)

/-- Removes the binding of `k`. -/
def unbind {α : Type} (xs : List (String × α)) (k : String) : List (String × α) :=
  xs.filter (·.1 != k)

/-- Looking past a binding of another name. -/
theorem lookup_cons_of_ne {α : Type} {k other : String} (v : α) (xs : List (String × α))
    (h : other ≠ k) : ((other, v) :: xs).lookup k = xs.lookup k := by
  have hb : (k == other) = false := beq_eq_false_iff_ne.2 (Ne.symm h)
  rw [List.lookup_cons, hb]

/-- A binding found by looking a name up is one of the bindings. -/
theorem mem_of_lookup_eq_some {α : Type} {xs : List (String × α)} {k : String} {v : α}
    (h : xs.lookup k = some v) : (k, v) ∈ xs := by
  obtain ⟨l₁, l₂, rfl, -⟩ := List.lookup_eq_some_iff.1 h
  simp

/-- Binding a name not bound yet puts it in front of the others. -/
theorem rebind_of_lookup_eq_none {α : Type} {xs : List (String × α)} {k : String}
    (h : xs.lookup k = none) (v : α) : rebind xs k v = (k, v) :: xs := by
  unfold rebind
  congr 1
  refine List.filter_eq_self.2 fun p hp => ?_
  have hne := List.lookup_eq_none_iff.1 h p hp
  simpa [bne_comm] using hne

/-- Dropping the bindings of another name keeps a name's binding. -/
theorem lookup_filter_of_ne {α : Type} {k other : String} (xs : List (String × α))
    (h : other ≠ k) : (xs.filter (·.1 != other)).lookup k = xs.lookup k := by
  induction xs with
  | nil => rfl
  | cons p rest ih =>
    obtain ⟨k', v⟩ := p
    simp only [List.filter_cons]
    by_cases hk : k' = other
    · subst hk
      simp only [bne_self_eq_false, Bool.false_eq_true, if_false]
      rw [ih, lookup_cons_of_ne v rest h]
    · have hkeep : (k' != other) = true := bne_iff_ne.2 hk
      rw [if_pos hkeep]
      by_cases hkk : k' = k
      · subst hkk
        rw [List.lookup_cons_self, List.lookup_cons_self]
      · rw [lookup_cons_of_ne v _ hkk, lookup_cons_of_ne v rest hkk, ih]

namespace World

/-- A world over `host` with nothing in it. -/
def start (host : Host) : World :=
  ⟨host, #[], [], [], [], [], #[], #[], #[], #[]⟩

/-- Appends a log event. -/
def logEvent (w : World) (e : LogEvent) : World := { w with events := w.events.push e }

/-- Appends a listener call. -/
def deliverCall (w : World) (d : Delivery) : World := { w with deliveries := w.deliveries.push d }

/-- Whether listener `l` is active. -/
def isActive (w : World) (l : Nat) : Bool :=
  match w.listeners[l]? with
  | some x => x.active
  | none => false

/-- Makes a new active listener. -/
def addListener (w : World) (h : Handler) : Nat × World :=
  (w.listeners.size, { w with listeners := w.listeners.push ⟨true, h⟩ })

/-- Retires listener `l`. -/
def retire (w : World) (l : Nat) : World :=
  { w with listeners := w.listeners.modify l fun x => { x with active := false } }

/-- The counters of a named bridge; a bridge not made yet has all zero. -/
def stats (w : World) (name : String) : BridgeStats :=
  (w.bridges.lookup name).getD .zero

/-- Changes the counters a subscription reports to. -/
def bump (w : World) (b : BridgeRef) (f : BridgeStats → BridgeStats) : World :=
  match b with
  | .named name => { w with bridges := rebind w.bridges name (f (w.stats name)) }
  | .unnamed => w

/-- Replaces the host. -/
def setHost (w : World) (h : Host) : World := { w with host := h }

/-- Replaces the local table. -/
def setTable (w : World) (t : Registry) : World := { w with host := w.host.setTable t }

/-- A fresh recording under `name`, replacing the name's earlier one; `counted` adds a call count. -/
def addRecording (w : World) (name : String) (counted : Bool) : Nat × World :=
  (w.records.size, { w with records := w.records.push ⟨#[], if counted then some 0 else none⟩,
                            recordings := rebind w.recordings name w.records.size })

/-- Records a payload in recording `r`. -/
def recordPayload (w : World) (r : Nat) (p : Payload) : World :=
  { w with records := w.records.modify r fun x =>
      ⟨x.payloads.push p, x.calls.map (· + 1)⟩ }

/-- A fresh open stream queue. -/
def addQueue (w : World) : Nat × World :=
  (w.queues.size, { w with queues := w.queues.push ⟨[], false⟩ })

/-- Whether stream queue `q` was closed. -/
def queueClosed (w : World) (q : Nat) : Bool :=
  match w.queues[q]? with
  | some x => x.closed
  | none => true

/-- Appends a payload to stream queue `q`. -/
def enqueue (w : World) (q : Nat) (p : Payload) : World :=
  { w with queues := w.queues.modify q fun x => { x with items := x.items ++ [p] } }

/-- Closes stream queue `q`; what it holds stays readable. -/
def closeQueue (w : World) (q : Nat) : World :=
  { w with queues := w.queues.modify q fun x => { x with closed := true } }

/-- Takes the first payload of stream queue `q`. -/
def dequeue (w : World) (q : Nat) : Option Payload × World :=
  match (w.queues[q]?).bind (·.items.head?) with
  | some p => (some p, { w with queues := w.queues.modify q fun x => { x with items := x.items.tail } })
  | none => (none, w)

/-- Whether the host still holds a registration of listener `l`. -/
def isHeld (w : World) (l : Nat) : Bool := w.host.held.contains l

/-! ## What each update touches -/

@[simp] theorem host_logEvent (w : World) (e : LogEvent) : (w.logEvent e).host = w.host := rfl
@[simp] theorem listeners_logEvent (w : World) (e : LogEvent) :
    (w.logEvent e).listeners = w.listeners := rfl
@[simp] theorem handles_logEvent (w : World) (e : LogEvent) : (w.logEvent e).handles = w.handles := rfl
@[simp] theorem queues_logEvent (w : World) (e : LogEvent) : (w.logEvent e).queues = w.queues := rfl
@[simp] theorem host_setHost (w : World) (h : Host) : (w.setHost h).host = h := rfl
@[simp] theorem listeners_setHost (w : World) (h : Host) :
    (w.setHost h).listeners = w.listeners := rfl
@[simp] theorem handles_setHost (w : World) (h : Host) : (w.setHost h).handles = w.handles := rfl
@[simp] theorem queues_setHost (w : World) (h : Host) : (w.setHost h).queues = w.queues := rfl
@[simp] theorem host_retire (w : World) (l : Nat) : (w.retire l).host = w.host := rfl
@[simp] theorem handles_retire (w : World) (l : Nat) : (w.retire l).handles = w.handles := rfl
@[simp] theorem queues_retire (w : World) (l : Nat) : (w.retire l).queues = w.queues := rfl
@[simp] theorem host_addListener (w : World) (h : Handler) : (w.addListener h).2.host = w.host := rfl
@[simp] theorem handles_addListener (w : World) (h : Handler) :
    (w.addListener h).2.handles = w.handles := rfl
@[simp] theorem queues_addListener (w : World) (h : Handler) :
    (w.addListener h).2.queues = w.queues := rfl

@[simp] theorem deliveries_logEvent (w : World) (e : LogEvent) :
    (w.logEvent e).deliveries = w.deliveries := rfl
@[simp] theorem host_deliverCall (w : World) (d : Delivery) : (w.deliverCall d).host = w.host := rfl
@[simp] theorem listeners_deliverCall (w : World) (d : Delivery) :
    (w.deliverCall d).listeners = w.listeners := rfl
@[simp] theorem handles_deliverCall (w : World) (d : Delivery) :
    (w.deliverCall d).handles = w.handles := rfl
@[simp] theorem queues_deliverCall (w : World) (d : Delivery) :
    (w.deliverCall d).queues = w.queues := rfl
@[simp] theorem deliveries_deliverCall (w : World) (d : Delivery) :
    (w.deliverCall d).deliveries = w.deliveries.push d := rfl
@[simp] theorem host_recordPayload (w : World) (r : Nat) (p : Payload) :
    (w.recordPayload r p).host = w.host := rfl
@[simp] theorem listeners_recordPayload (w : World) (r : Nat) (p : Payload) :
    (w.recordPayload r p).listeners = w.listeners := rfl
@[simp] theorem handles_recordPayload (w : World) (r : Nat) (p : Payload) :
    (w.recordPayload r p).handles = w.handles := rfl
@[simp] theorem queues_recordPayload (w : World) (r : Nat) (p : Payload) :
    (w.recordPayload r p).queues = w.queues := rfl
@[simp] theorem deliveries_recordPayload (w : World) (r : Nat) (p : Payload) :
    (w.recordPayload r p).deliveries = w.deliveries := rfl
@[simp] theorem host_enqueue (w : World) (q : Nat) (p : Payload) : (w.enqueue q p).host = w.host := rfl
@[simp] theorem deliveries_enqueue (w : World) (q : Nat) (p : Payload) :
    (w.enqueue q p).deliveries = w.deliveries := rfl

@[simp] theorem deliveries_bump (w : World) (b : BridgeRef) (f : BridgeStats → BridgeStats) :
    (w.bump b f).deliveries = w.deliveries := by
  cases b <;> rfl

@[simp] theorem host_bump (w : World) (b : BridgeRef) (f : BridgeStats → BridgeStats) :
    (w.bump b f).host = w.host := by
  cases b <;> rfl

@[simp] theorem listeners_bump (w : World) (b : BridgeRef) (f : BridgeStats → BridgeStats) :
    (w.bump b f).listeners = w.listeners := by
  cases b <;> rfl

@[simp] theorem handles_bump (w : World) (b : BridgeRef) (f : BridgeStats → BridgeStats) :
    (w.bump b f).handles = w.handles := by
  cases b <;> rfl

@[simp] theorem queues_bump (w : World) (b : BridgeRef) (f : BridgeStats → BridgeStats) :
    (w.bump b f).queues = w.queues := by
  cases b <;> rfl

/-- Changing the element just pushed is pushing the changed one. -/
theorem modify_push_size {α : Type} (xs : Array α) (x : α) (f : α → α) :
    (xs.push x).modify xs.size f = xs.push (f x) := by
  apply Array.ext
  · simp
  · intro i h1 h2
    simp only [Array.getElem_modify, Array.getElem_push]
    by_cases hi : i = xs.size
    · subst hi
      simp
    · have hlt : i < xs.size := by simp at h1; omega
      simp [hlt, Ne.symm hi]

@[simp] theorem listeners_addListener (w : World) (h : Handler) :
    (w.addListener h).2.listeners = w.listeners.push ⟨true, h⟩ := rfl

@[simp] theorem listeners_retire (w : World) (l : Nat) :
    (w.retire l).listeners = w.listeners.modify l fun x => { x with active := false } := rfl

@[simp] theorem listeners_enqueue (w : World) (q : Nat) (p : Payload) :
    (w.enqueue q p).listeners = w.listeners := rfl
@[simp] theorem handles_enqueue (w : World) (q : Nat) (p : Payload) :
    (w.enqueue q p).handles = w.handles := rfl
@[simp] theorem listeners_closeQueue (w : World) (q : Nat) :
    (w.closeQueue q).listeners = w.listeners := rfl
@[simp] theorem handles_closeQueue (w : World) (q : Nat) : (w.closeQueue q).handles = w.handles := rfl
@[simp] theorem host_closeQueue (w : World) (q : Nat) : (w.closeQueue q).host = w.host := rfl

@[simp] theorem size_queues_enqueue (w : World) (q : Nat) (p : Payload) :
    (w.enqueue q p).queues.size = w.queues.size := by
  simp [enqueue]

@[simp] theorem size_queues_closeQueue (w : World) (q : Nat) :
    (w.closeQueue q).queues.size = w.queues.size := by
  simp [closeQueue]

/-- Appending to a queue opens or closes none. -/
@[simp] theorem queueClosed_enqueue (w : World) (q : Nat) (p : Payload) (q' : Nat) :
    (w.enqueue q p).queueClosed q' = w.queueClosed q' := by
  unfold queueClosed enqueue
  simp only [Array.getElem?_modify]
  by_cases h : q = q'
  · rw [if_pos h]
    cases w.queues[q']? <;> rfl
  · rw [if_neg h]

/-- Whether a queue is closed is read off the queues alone. -/
theorem queueClosed_congr {w w' : World} (h : w'.queues = w.queues) :
    w'.queueClosed = w.queueClosed := by
  funext q
  simp [queueClosed, h]

/-- An open queue is one that was made and not closed. -/
theorem getElem?_of_queueClosed {w : World} {q : Nat} (h : w.queueClosed q = false) :
    ∃ x, w.queues[q]? = some x ∧ x.closed = false := by
  unfold queueClosed at h
  cases hq : w.queues[q]? with
  | none => simp [hq] at h
  | some x => exact ⟨x, rfl, by simpa [hq] using h⟩

/-- Only a queue that was made can be open. -/
theorem lt_size_of_queueClosed {w : World} {q : Nat} (h : w.queueClosed q = false) :
    q < w.queues.size := by
  obtain ⟨x, hx, -⟩ := getElem?_of_queueClosed h
  exact (Array.getElem?_eq_some_iff.1 hx).1

/-- A new queue is open, and the others stay as they were. -/
theorem queueClosed_addQueue (w : World) (q : Nat) :
    w.addQueue.2.queueClosed q = if q = w.queues.size then false else w.queueClosed q := by
  unfold queueClosed addQueue
  simp only [Array.getElem?_push]
  by_cases h : q = w.queues.size
  · rw [if_pos h, if_pos h]
  · rw [if_neg h, if_neg h]

/-- Closing a queue closes that one and no other. -/
theorem queueClosed_closeQueue (w : World) (q q' : Nat) :
    (w.closeQueue q).queueClosed q' = (q' == q || w.queueClosed q') := by
  unfold queueClosed closeQueue
  simp only [Array.getElem?_modify]
  by_cases h : q = q'
  · subst h
    cases w.queues[q]? <;> simp
  · have h' : (q' == q) = false := beq_eq_false_iff_ne.2 (Ne.symm h)
    simp only [if_neg h, h', Bool.false_or]

/-- Taking from a queue opens or closes none, and changes no listener, handle or host. -/
theorem dequeue_frame (w : World) (q : Nat) :
    (w.dequeue q).2.listeners = w.listeners ∧ (w.dequeue q).2.handles = w.handles ∧
    (w.dequeue q).2.host = w.host ∧ (w.dequeue q).2.queues.size = w.queues.size ∧
    ∀ q', (w.dequeue q).2.queueClosed q' = w.queueClosed q' := by
  unfold dequeue
  split
  · refine ⟨rfl, rfl, rfl, by simp, fun q' => ?_⟩
    unfold queueClosed
    simp only [Array.getElem?_modify]
    by_cases h : q = q'
    · rw [if_pos h]
      cases w.queues[q']? <;> rfl
    · rw [if_neg h]
  · exact ⟨rfl, rfl, rfl, rfl, fun _ => rfl⟩

/-! ## Active flags and counters -/

/-- A retired listener is inactive. -/
@[simp] theorem isActive_retire_self (w : World) (l : Nat) : (w.retire l).isActive l = false := by
  unfold isActive retire
  simp only [Array.getElem?_modify, if_true]
  cases w.listeners[l]? <;> rfl

/-- Retiring one listener leaves the others' flags. -/
theorem isActive_retire_of_ne (w : World) {l m : Nat} (h : l ≠ m) :
    (w.retire l).isActive m = w.isActive m := by
  unfold isActive retire
  simp [Array.getElem?_modify, h]

/-- A new listener is active. -/
@[simp] theorem isActive_addListener (w : World) (h : Handler) :
    (w.addListener h).2.isActive (w.addListener h).1 = true := by
  simp [addListener, isActive]

/-- A new listener leaves the flags of the listeners made before it. -/
theorem isActive_addListener_of_lt (w : World) (h : Handler) {m : Nat} (hm : m < w.listeners.size) :
    (w.addListener h).2.isActive m = w.isActive m := by
  simp [addListener, isActive, Array.getElem?_push, Nat.ne_of_lt hm]

/-- With one more listener, the new one has its own flag and the others keep theirs. -/
theorem isActive_of_listeners_push {w w' : World} {x : Listener} (h : w'.listeners = w.listeners.push x)
    (m : Nat) : w'.isActive m = if m = w.listeners.size then x.active else w.isActive m := by
  unfold isActive
  rw [h, Array.getElem?_push]
  by_cases hm : m = w.listeners.size <;> simp [hm]

/-- The flags are read off the listeners alone. -/
theorem isActive_congr {w w' : World} (h : w'.listeners = w.listeners) : w'.isActive = w.isActive := by
  funext l
  simp [isActive, h]

/-- Only a listener that was made can be active. -/
theorem lt_size_of_isActive {w : World} {l : Nat} (h : w.isActive l = true) :
    l < w.listeners.size := by
  unfold isActive at h
  cases hl : w.listeners[l]? with
  | none => simp [hl] at h
  | some x => exact (Array.getElem?_eq_some_iff.1 hl).1

@[simp] theorem size_retire (w : World) (l : Nat) : (w.retire l).listeners.size = w.listeners.size := by
  simp [retire]

/-- Retiring a listener turns off its flag and no other. -/
theorem isActive_retire (w : World) (l m : Nat) :
    (w.retire l).isActive m = (m != l && w.isActive m) := by
  by_cases h : m = l
  · subst h
    simp
  · simp [isActive_retire_of_ne w (Ne.symm h), h]

/-- Retiring listeners one after another turns off exactly their flags. -/
theorem isActive_retireAll (w : World) (ls : List Nat) (m : Nat) :
    (ls.foldl retire w).isActive m = (!ls.contains m && w.isActive m) := by
  induction ls generalizing w with
  | nil => simp
  | cons l rest ih =>
    rw [List.foldl_cons, ih, isActive_retire]
    by_cases h : m = l
    · simp [h]
    · have hne : (m != l) = true := bne_iff_ne.2 h
      simp [h, hne]

@[simp] theorem size_retireAll (w : World) (ls : List Nat) :
    (ls.foldl retire w).listeners.size = w.listeners.size := by
  induction ls generalizing w with
  | nil => rfl
  | cons l rest ih => rw [List.foldl_cons, ih, size_retire]

@[simp] theorem host_retireAll (w : World) (ls : List Nat) : (ls.foldl retire w).host = w.host := by
  induction ls generalizing w with
  | nil => rfl
  | cons l rest ih => rw [List.foldl_cons, ih]; rfl

@[simp] theorem handles_retireAll (w : World) (ls : List Nat) :
    (ls.foldl retire w).handles = w.handles := by
  induction ls generalizing w with
  | nil => rfl
  | cons l rest ih => rw [List.foldl_cons, ih]; rfl

@[simp] theorem deliveries_retireAll (w : World) (ls : List Nat) :
    (ls.foldl retire w).deliveries = w.deliveries := by
  induction ls generalizing w with
  | nil => rfl
  | cons l rest ih => rw [List.foldl_cons, ih]; rfl

@[simp] theorem queues_retireAll (w : World) (ls : List Nat) :
    (ls.foldl retire w).queues = w.queues := by
  induction ls generalizing w with
  | nil => rfl
  | cons l rest ih => rw [List.foldl_cons, ih]; rfl

@[simp] theorem fst_addListener (w : World) (h : Handler) :
    (w.addListener h).1 = w.listeners.size := rfl

@[simp] theorem size_addListener (w : World) (h : Handler) :
    (w.addListener h).2.listeners.size = w.listeners.size + 1 := by
  simp [addListener]

/-- A new listener is active and the others keep their flags. -/
theorem isActive_addListener_eq (w : World) (h : Handler) (m : Nat) :
    (w.addListener h).2.isActive m = (m == w.listeners.size || w.isActive m) := by
  by_cases hm : m = w.listeners.size
  · subst hm
    simpa using isActive_addListener w h
  · by_cases hlt : m < w.listeners.size
    · simp [isActive_addListener_of_lt w h hlt, hm]
    · have hnot : w.isActive m = false := by
        cases hact : w.isActive m
        · rfl
        · exact absurd (lt_size_of_isActive hact) hlt
      have hnot' : (w.addListener h).2.isActive m = false := by
        cases hact : (w.addListener h).2.isActive m
        · rfl
        · have := lt_size_of_isActive hact
          simp only [size_addListener] at this
          omega
      simp [hnot, hnot', hm]

/-- Changing a named bridge's counters changes them by the given function. -/
@[simp] theorem stats_bump_named (w : World) (name : String) (f : BridgeStats → BridgeStats) :
    (w.bump (.named name) f).stats name = f (w.stats name) := by
  simp [bump, stats, rebind]

/-- Changing one bridge's counters leaves the other bridges' counters. -/
theorem stats_bump_of_ne (w : World) (b : BridgeRef) (f : BridgeStats → BridgeStats) {name : String}
    (h : b ≠ .named name) : (w.bump b f).stats name = w.stats name := by
  cases b with
  | named other =>
    have hne : other ≠ name := fun e => h (e ▸ rfl)
    simp only [bump, stats, rebind]
    rw [lookup_cons_of_ne _ _ hne, lookup_filter_of_ne _ hne]
  | unnamed => rfl

end World

end ChannelBridge
