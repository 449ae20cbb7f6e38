import ChannelBridge.Session.Dispatch

/-! # Senders and the dispatcher task, interleaved

A dispatcher's queue is shared by the clones of its sender and by its task, and the runtime may
interleave their steps in any order. This module states those steps as a transition system over the
session's world and the transport: the dispatcher, how many senders are alive, and which sends are
waiting for room in the queue.

* A sender begins a send by taking its envelope; a bare payload takes the next event id there. The
  send then waits. It is queued while the task is alive and the queue holds fewer envelopes than its
  bound, and it is refused as closed once the task has stopped. A waiting send may also be given up,
  and then nothing is queued.
* The task's first step logs that it started. Each later step takes the head of the queue and
  delivers it through the local table. Once the queue is empty and every sender has been dropped, the
  task logs how many envelopes it handed on and ends.
* The task can be aborted from outside. It stops without delivering what is queued.
* A sender is cloned from a live one, and a sender that is not waiting on a send can be dropped.

A run lists the labels of its steps. `World.dispatch` runs one schedule of this system: a send that
finds the queue full waits for the task to empty it, and the task runs to its end once the sender
is dropped.
-/

namespace ChannelBridge

/-- A dispatcher with its senders: how many are alive, and the envelopes of the sends waiting for
room, in the order they began. -/
structure Transport where
  dispatcher : Dispatcher
  senders : Nat
  waiting : List Envelope

namespace Transport

/-- A dispatcher of `capacity` just spawned, with its one sender. -/
def spawn (capacity : Nat) : Transport := ⟨Dispatcher.spawn capacity, 1, []⟩

/-- What a step shows. -/
inductive Label where
  /-- A sender is cloned. -/
  | clone
  /-- A sender is dropped. -/
  | drop
  /-- A send begins with its envelope. -/
  | call (e : Envelope)
  /-- A send returns. -/
  | returned (e : Envelope) (r : Except HostError Unit)
  /-- A waiting send is given up. -/
  | abandoned (e : Envelope)
  /-- The task logs that it started. -/
  | started
  /-- The task hands an envelope to the local table. -/
  | delivered (e : Envelope)
  /-- The task logs what it handed on and ends. -/
  | stopped
  /-- The task is aborted. -/
  | aborted

namespace Label

/-- The envelope of a send that returned `Ok`. -/
def accepted? : Label → Option Envelope
  | .returned e (.ok ()) => some e
  | _ => none

/-- The envelope the task hands to the local table. -/
def delivered? : Label → Option Envelope
  | .delivered e => some e
  | _ => none

/-- What a send returned. -/
def result? : Label → Option (Except HostError Unit)
  | .returned _ r => some r
  | _ => none

end Label

/-- The envelopes of the sends that returned `Ok`, in the order they were queued. -/
def accepted (labels : List Label) : List Envelope := labels.filterMap Label.accepted?

/-- The envelopes handed to the local table, in order. -/
def delivered (labels : List Label) : List Envelope := labels.filterMap Label.delivered?

/-- One step of a sender or of the task. -/
inductive Step : World → Transport → Label → World → Transport → Prop where
  /-- A live sender is cloned. -/
  | clone {w : World} {t : Transport} (halive : 0 < t.senders) :
      Step w t .clone w { t with senders := t.senders + 1 }
  /-- A sender that is not waiting on a send is dropped. -/
  | drop {w : World} {t : Transport} (hidle : t.waiting.length < t.senders) :
      Step w t .drop w { t with senders := t.senders - 1 }
  /-- A sender that is not waiting begins a send with the envelope of `o`. -/
  | call {w : World} {t : Transport} (o : Outgoing) (hidle : t.waiting.length < t.senders) :
      Step w t (.call (w.envelopeOf o).1) (w.envelopeOf o).2
        { t with waiting := t.waiting ++ [(w.envelopeOf o).1] }
  /-- A waiting send is queued while the task is alive and the queue has room. -/
  | accept {w : World} {t : Transport} (pre post : List Envelope) (e : Envelope)
      (hwaiting : t.waiting = pre ++ e :: post) (hrunning : t.dispatcher.running = true)
      (hroom : t.dispatcher.queue.length < t.dispatcher.capacity) :
      Step w t (.returned e (.ok ())) w
        { t with dispatcher := { t.dispatcher with queue := t.dispatcher.queue ++ [e] },
                 waiting := pre ++ post }
  /-- A waiting send is refused once the task has stopped. -/
  | refuse {w : World} {t : Transport} (pre post : List Envelope) (e : Envelope)
      (hwaiting : t.waiting = pre ++ e :: post) (hstopped : t.dispatcher.running = false) :
      Step w t (.returned e (.error .closed)) w { t with waiting := pre ++ post }
  /-- A waiting send is given up. -/
  | abandon {w : World} {t : Transport} (pre post : List Envelope) (e : Envelope)
      (hwaiting : t.waiting = pre ++ e :: post) :
      Step w t (.abandoned e) w { t with waiting := pre ++ post }
  /-- The task runs for the first time and logs that it started. -/
  | start {w : World} {t : Transport} (hrunning : t.dispatcher.running = true)
      (hfresh : t.dispatcher.started = false) :
      Step w t .started (w.logEvent (.dispatcherStarted t.dispatcher.capacity))
        { t with dispatcher := { t.dispatcher with started := true } }
  /-- The task takes the head of the queue and delivers it through the local table. -/
  | deliver {w : World} {t : Transport} (e : Envelope) (rest : List Envelope)
      (hrunning : t.dispatcher.running = true) (hstarted : t.dispatcher.started = true)
      (hqueue : t.dispatcher.queue = e :: rest) :
      Step w t (.delivered e) (w.deliverLocal e).2
        { t with dispatcher := { t.dispatcher with queue := rest,
                                                   dispatched := t.dispatcher.dispatched + 1 } }
  /-- With the queue empty and every sender dropped, the task logs what it handed on and ends. -/
  | stop {w : World} {t : Transport} (hrunning : t.dispatcher.running = true)
      (hstarted : t.dispatcher.started = true) (hqueue : t.dispatcher.queue = [])
      (hsenders : t.senders = 0) :
      Step w t .stopped (w.logEvent (.dispatcherStopped t.dispatcher.dispatched))
        { t with dispatcher := { t.dispatcher with running := false } }
  /-- The task is aborted from outside. -/
  | abort {w : World} {t : Transport} (hrunning : t.dispatcher.running = true) :
      Step w t .aborted w { t with dispatcher := t.dispatcher.abort }

/-- Steps one after another, with their labels. -/
inductive Run : World → Transport → List Label → World → Transport → Prop where
  | refl (w : World) (t : Transport) : Run w t [] w t
  | step {w w₁ w' : World} {t t₁ t' : Transport} {l : Label} {labels : List Label} :
      Step w t l w₁ t₁ → Run w₁ t₁ labels w' t' → Run w t (l :: labels) w' t'

end Transport

end ChannelBridge
