import ChannelBridge.Session.Deliver

/-!
# The dispatcher

A dispatcher is a task fed by a bounded queue. Senders either give a channel and a payload, which
takes the next event id at the send, or forward a whole envelope, which keeps its id. The task takes
envelopes from the head of the queue and delivers each through the local table.

The task runs only when the sender has to wait: when the queue is full at a send, and when the
sender is dropped and the task is awaited. Each run empties the queue in order. The first run logs
that the dispatcher started; the end of the task logs how many envelopes it handed on. A task that
was aborted before it ran refuses every send as closed and logs nothing; a send still takes its
event id first.
-/

namespace ChannelBridge

/-- What is handed to a dispatcher. -/
inductive Outgoing where
  /-- A payload on a channel; it takes the next event id. -/
  | payload (c : Channel) (payload : Json)
  /-- A whole envelope, id included. -/
  | envelope (e : Envelope)

/-- A dispatcher: the bound of its queue, the envelopes waiting, whether its task is alive,
whether it has run, and how many envelopes it handed on. -/
structure Dispatcher where
  capacity : Nat
  queue : List Envelope
  running : Bool
  started : Bool
  dispatched : Nat

namespace Dispatcher

/-- A new dispatcher; a capacity of zero is raised to one. -/
def spawn (capacity : Nat) : Dispatcher := ⟨max capacity 1, [], true, false, 0⟩

/-- Spawns a dispatcher on a runtime whose bounded queues come from `makeQueue`: a queue of `b` slots
is made when `makeQueue b` holds, and otherwise the runtime panics, here `none`. The capacity is
raised to one before the queue is asked for, and not bounded from above. -/
def spawnOn (makeQueue : Nat → Bool) (capacity : Nat) : Option Dispatcher :=
  if makeQueue (max capacity 1) then some (spawn capacity) else none

/-- Stops the task before it runs. -/
def abort (d : Dispatcher) : Dispatcher := { d with running := false }

end Dispatcher

namespace World

/-- Delivers envelopes through the local table, in order. -/
def deliverAll (w : World) : List Envelope → World
  | [] => w
  | e :: rest => (w.deliverLocal e).2.deliverAll rest

/-- Lets the dispatcher's task run until its queue is empty. -/
def runDispatcher (w : World) (d : Dispatcher) : World × Dispatcher :=
  let w := if d.started then w else w.logEvent (.dispatcherStarted d.capacity)
  (w.deliverAll d.queue,
    { d with queue := [], started := true, dispatched := d.dispatched + d.queue.length })

/-- The envelope of an item, taking an event id for a bare payload. -/
def envelopeOf (w : World) : Outgoing → Envelope × World
  | .payload c payload =>
    let (id, t) := w.host.table.nextEvent
    (⟨id, c, epoch, payload⟩, w.setTable t)
  | .envelope e => (e, w)

/-- Sends one item: a live dispatcher queues it, first letting its task run if the queue is full;
a stopped one refuses it. -/
def send (w : World) (d : Dispatcher) (o : Outgoing) : Except HostError Unit × World × Dispatcher :=
  let (e, w) := w.envelopeOf o
  if d.running then
    let (w, d) := if d.queue.length < d.capacity then (w, d) else w.runDispatcher d
    (.ok (), w, { d with queue := d.queue ++ [e] })
  else (.error .closed, w, d)

/-- Drops the sender and waits for the task: a live dispatcher delivers what is queued and stops. -/
def finish (w : World) (d : Dispatcher) : World :=
  if d.running then
    let (w, d) := w.runDispatcher d
    w.logEvent (.dispatcherStopped d.dispatched)
  else w

/-- Runs a dispatcher of `capacity` over a list of sends, then drops the sender and waits for the
task. An item `.error x` is a send the caller could not make; it stays `.error (.inl x)`. With
`abort`, the task is stopped before the first send. -/
def dispatch {ε : Type} (w : World) (capacity : Nat) (abort : Bool)
    (items : List (Except ε Outgoing)) : List (Except (ε ⊕ HostError) Unit) × World :=
  let d := Dispatcher.spawn capacity
  let d := if abort then d.abort else d
  let (out, w, d) := items.foldl (fun (out, w, d) item =>
    match item with
    | .error x => (out ++ [.error (.inl x)], w, d)
    | .ok o =>
      match w.send d o with
      | (.ok (), w, d) => (out ++ [.ok ()], w, d)
      | (.error e, w, d) => (out ++ [.error (.inr e)], w, d)) ([], w, d)
  (out, w.finish d)

end World

end ChannelBridge
