import ChannelBridge.Session.Transport

/-! # The dispatcher hands on exactly what was queued

Over every interleaving of sends and of the dispatcher task's steps:

* the envelopes handed to the local table, followed by the envelopes still queued, are exactly the
  envelopes of the sends that returned `Ok`, in the order they were queued (`Run.queue_accounted`);
  so once the task has ended normally, it has handed on each accepted envelope once, in order;
* the queue never holds more than its bound, the capacity raised to one (`Run.queue_le`);
* once every sender is dropped, the task's only course is to start if it has not, hand on what is
  queued, in order, and end, after which nothing can happen (`drain_forced`, `run_drain`);
* once the task has stopped, every send returns `Closed` and nothing more is handed on
  (`Run.of_stopped`).

`World.dispatch`, the schedule sessions run, is one of these runs (`run_dispatch`).
-/

namespace ChannelBridge

namespace Transport

variable {w w₁ w' : World} {t t₁ t' : Transport} {l : Label} {labels labels' : List Label}

/-! ## Runs -/

theorem Run.single (h : Step w t l w' t') : Run w t [l] w' t' := .step h (.refl _ _)

theorem Run.append (h₁ : Run w t labels w₁ t₁) (h₂ : Run w₁ t₁ labels' w' t') :
    Run w t (labels ++ labels') w' t' := by
  induction h₁ with
  | refl => exact h₂
  | step hstep _ ih => exact .step hstep (ih h₂)

/-- What every step keeps, every run keeps. -/
theorem Run.preserves {P : Transport → Prop}
    (hstep : ∀ {w t l w' t'}, Step w t l w' t' → P t → P t') (hrun : Run w t labels w' t')
    (h : P t) : P t' := by
  induction hrun with
  | refl => exact h
  | step hs _ ih => exact ih (hstep hs h)

namespace Label

@[simp] theorem result?_returned (e : Envelope) (r : Except HostError Unit) :
    (returned e r).result? = some r := rfl

@[simp] theorem result?_call (e : Envelope) : (call e).result? = none := rfl

@[simp] theorem result?_started : started.result? = none := rfl

@[simp] theorem result?_delivered (e : Envelope) : (delivered e).result? = none := rfl

@[simp] theorem result?_stopped : stopped.result? = none := rfl

@[simp] theorem result?_drop : drop.result? = none := rfl

@[simp] theorem result?_aborted : aborted.result? = none := rfl

end Label

@[simp] theorem accepted_nil : accepted [] = [] := rfl

@[simp] theorem delivered_nil : delivered [] = [] := rfl

theorem accepted_cons (l : Label) (labels : List Label) :
    accepted (l :: labels) = l.accepted?.toList ++ accepted labels := by
  unfold accepted
  cases h : l.accepted? <;> simp [h]

theorem delivered_cons (l : Label) (labels : List Label) :
    delivered (l :: labels) = l.delivered?.toList ++ delivered labels := by
  unfold delivered
  cases h : l.delivered? <;> simp [h]

/-! ## What one step does -/

/-- A step queues the envelope of a send that returns `Ok` at the tail, or hands the head of the
queue to the local table, or leaves the queue. -/
theorem Step.queue_accounted (h : Step w t l w' t') :
    t.dispatcher.queue ++ l.accepted?.toList = l.delivered?.toList ++ t'.dispatcher.queue := by
  cases h with
  | accept => simp [Label.accepted?, Label.delivered?]
  | deliver e rest _ _ hqueue => simp [Label.accepted?, Label.delivered?, hqueue]
  | _ => simp [Label.accepted?, Label.delivered?, Dispatcher.abort]

/-- No step changes the bound of the queue. -/
theorem Step.capacity_eq (h : Step w t l w' t') : t'.dispatcher.capacity = t.dispatcher.capacity := by
  cases h <;> rfl

/-- A step queues only while the queue has room. -/
theorem Step.queue_le (h : Step w t l w' t')
    (hle : t.dispatcher.queue.length ≤ t.dispatcher.capacity) :
    t'.dispatcher.queue.length ≤ t'.dispatcher.capacity := by
  cases h with
  | accept _ _ _ _ _ hroom => simp only [List.length_append, List.length_singleton]; omega
  | deliver e rest _ _ hqueue => simp only [hqueue, List.length_cons] at hle ⊢; omega
  | _ => exact hle

/-- Only a sender that is alive waits on a send, one send each. -/
theorem Step.waiting_le (h : Step w t l w' t') (hle : t.waiting.length ≤ t.senders) :
    t'.waiting.length ≤ t'.senders := by
  cases h with
  | clone => dsimp only; omega
  | drop hidle => dsimp only; omega
  | call o hidle => simp only [List.length_append, List.length_singleton]; omega
  | accept pre post e hwaiting =>
    simp only [hwaiting, List.length_append, List.length_cons] at hle ⊢; omega
  | refuse pre post e hwaiting =>
    simp only [hwaiting, List.length_append, List.length_cons] at hle ⊢; omega
  | abandon pre post e hwaiting =>
    simp only [hwaiting, List.length_append, List.length_cons] at hle ⊢; omega
  | _ => exact hle

/-- Once the task has stopped it stays stopped: nothing is queued or handed on, and a send that
returns is refused as closed. -/
theorem Step.of_stopped (h : Step w t l w' t') (hstopped : t.dispatcher.running = false) :
    t'.dispatcher.running = false ∧ t'.dispatcher.queue = t.dispatcher.queue ∧
    l.accepted? = none ∧ l.delivered? = none ∧ ∀ e r, l = .returned e r → r = .error .closed := by
  cases h with
  | accept _ _ _ _ hrunning => rw [hstopped] at hrunning; cases hrunning
  | start hrunning => rw [hstopped] at hrunning; cases hrunning
  | deliver _ _ hrunning => rw [hstopped] at hrunning; cases hrunning
  | stop hrunning => rw [hstopped] at hrunning; cases hrunning
  | abort hrunning => rw [hstopped] at hrunning; cases hrunning
  | refuse =>
    refine ⟨hstopped, rfl, rfl, rfl, fun e r he => ?_⟩
    cases he
    rfl
  | _ => exact ⟨hstopped, rfl, rfl, rfl, fun e r he => by cases he⟩

/-! ## What a run does -/

/-- Along a run, the envelopes queued at its start and those accepted during it are those handed
on during it followed by those queued at its end, in order. -/
theorem Run.queue_accounted (h : Run w t labels w' t') :
    t.dispatcher.queue ++ accepted labels = delivered labels ++ t'.dispatcher.queue := by
  induction h with
  | refl => simp
  | step hstep _ ih =>
    rw [accepted_cons, delivered_cons, ← List.append_assoc, hstep.queue_accounted,
      List.append_assoc, ih, List.append_assoc]

theorem Run.capacity_eq (h : Run w t labels w' t') :
    t'.dispatcher.capacity = t.dispatcher.capacity := by
  induction h with
  | refl => rfl
  | step hstep _ ih => rw [ih, hstep.capacity_eq]

theorem Run.queue_le (h : Run w t labels w' t')
    (hle : t.dispatcher.queue.length ≤ t.dispatcher.capacity) :
    t'.dispatcher.queue.length ≤ t'.dispatcher.capacity :=
  h.preserves (fun hstep hle => hstep.queue_le hle) hle

theorem Run.waiting_le (h : Run w t labels w' t') (hle : t.waiting.length ≤ t.senders) :
    t'.waiting.length ≤ t'.senders :=
  h.preserves (fun hstep hle => hstep.waiting_le hle) hle

/-- After the task has stopped, a run hands nothing on and queues nothing, and every send that
returns is refused as closed. -/
theorem Run.of_stopped (h : Run w t labels w' t') (hstopped : t.dispatcher.running = false) :
    t'.dispatcher.running = false ∧ t'.dispatcher.queue = t.dispatcher.queue ∧
    accepted labels = [] ∧ delivered labels = [] ∧
    ∀ e r, Label.returned e r ∈ labels → r = .error .closed := by
  induction h with
  | refl => simp [hstopped]
  | step hstep _ ih =>
    obtain ⟨hrun₁, hqueue₁, hacc, hdel, hret⟩ := hstep.of_stopped hstopped
    obtain ⟨hrun', hqueue', hacc', hdel', hret'⟩ := ih hrun₁
    refine ⟨hrun', hqueue'.trans hqueue₁, by simp [accepted_cons, hacc, hacc'],
      by simp [delivered_cons, hdel, hdel'], fun e r hmem => ?_⟩
    rcases List.mem_cons.1 hmem with he | hmem
    · exact hret e r he.symm
    · exact hret' e r hmem

/-- A run in which the task ended normally leaves the queue empty. -/
theorem Run.queue_of_stopped (h : Run w t labels w' t') (hmem : Label.stopped ∈ labels) :
    t'.dispatcher.queue = [] := by
  induction h with
  | refl => simp at hmem
  | @step w w₁ w' t t₁ t' l labels hstep hrest ih =>
    rcases List.mem_cons.1 hmem with he | hmem
    · -- the task ended here, with an empty queue, and a stopped task queues nothing
      subst he
      cases hstep with
      | stop _ _ hqueue =>
        rw [(hrest.of_stopped rfl).2.1]
        exact hqueue
    · exact ih hmem

/-! ## Draining once every sender is dropped -/

/-- What the task does once every sender is dropped: it starts if it has not, hands on what is
queued, in order, and ends. -/
def drainLabels (t : Transport) : List Label :=
  (if t.dispatcher.started then [] else [.started]) ++ t.dispatcher.queue.map .delivered ++
    [.stopped]

/-- With every sender dropped and the task ended, no step is possible. -/
theorem Step.not_of_ended (hsenders : t.senders = 0) (hwaiting : t.waiting = [])
    (hstopped : t.dispatcher.running = false) : ¬ Step w t l w' t' := by
  intro h
  cases h with
  | clone halive => omega
  | drop hidle => simp [hwaiting, hsenders] at hidle
  | call _ hidle => simp [hwaiting, hsenders] at hidle
  | accept pre post e hw => simp [hwaiting] at hw
  | refuse pre post e hw => simp [hwaiting] at hw
  | abandon pre post e hw => simp [hwaiting] at hw
  | start hrunning => rw [hstopped] at hrunning; cases hrunning
  | deliver _ _ hrunning => rw [hstopped] at hrunning; cases hrunning
  | stop hrunning => rw [hstopped] at hrunning; cases hrunning
  | abort hrunning => rw [hstopped] at hrunning; cases hrunning

/-- With every sender dropped, every step of the task but an abort is the next one of its drain. -/
theorem Step.drain (h : Step w t l w' t') (hsenders : t.senders = 0) (hwaiting : t.waiting = [])
    (habort : l ≠ .aborted) :
    ∃ rest, drainLabels t = l :: rest ∧ t'.senders = 0 ∧ t'.waiting = [] ∧
      (t'.dispatcher.running = true → drainLabels t' = rest) ∧
      (t'.dispatcher.running = false → rest = []) := by
  cases h with
  | clone halive => omega
  | drop hidle => simp [hwaiting, hsenders] at hidle
  | call _ hidle => simp [hwaiting, hsenders] at hidle
  | accept pre post e hw => simp [hwaiting] at hw
  | refuse pre post e hw => simp [hwaiting] at hw
  | abandon pre post e hw => simp [hwaiting] at hw
  | start hrunning hfresh =>
    refine ⟨t.dispatcher.queue.map .delivered ++ [.stopped], ?_, hsenders, hwaiting, ?_, ?_⟩
    · simp [drainLabels, hfresh]
    · intro _
      simp [drainLabels]
    · intro hstopped
      rw [hrunning] at hstopped
      cases hstopped
  | deliver e rest hrunning hstarted hqueue =>
    refine ⟨rest.map .delivered ++ [.stopped], ?_, hsenders, hwaiting, ?_, ?_⟩
    · simp [drainLabels, hstarted, hqueue]
    · intro _
      simp [drainLabels, hstarted]
    · intro hstopped
      rw [hrunning] at hstopped
      cases hstopped
  | stop hrunning hstarted hqueue =>
    refine ⟨[], ?_, hsenders, hwaiting, (fun h => by cases h), fun _ => rfl⟩
    simp [drainLabels, hstarted, hqueue]
  | abort => exact absurd rfl habort

/-- With every sender dropped, a run without an abort follows the drain: the task can only start,
hand on the queue in order and end, and after that nothing happens. -/
theorem drain_forced (h : Run w t labels w' t') :
    t.senders = 0 → t.waiting = [] → Label.aborted ∉ labels → labels <+: drainLabels t := by
  induction h with
  | refl => exact fun _ _ _ => List.nil_prefix
  | @step w w₁ w' t t₁ t' l labels hstep hrest ih =>
    intro hsenders hwaiting habort
    obtain ⟨rest, hdrain, hsenders₁, hwaiting₁, hlive, hended⟩ :=
      hstep.drain hsenders hwaiting fun he => habort (he ▸ List.mem_cons_self)
    rw [hdrain]
    cases hrunning : t₁.dispatcher.running
    · -- the task has ended: the run ends here too
      rw [hended hrunning]
      cases hrest with
      | refl => exact List.prefix_refl _
      | step hs _ => exact absurd hs (Step.not_of_ended hsenders₁ hwaiting₁ hrunning)
    · rw [← hlive hrunning]
      exact (List.prefix_cons_inj l).2 (ih hsenders₁ hwaiting₁ fun hm => habort (List.mem_cons_of_mem _ hm))

/-- The task hands on its queue, in order, through the local table. -/
theorem run_deliverAll (q : List Envelope) :
    ∀ (w : World) (t : Transport), t.dispatcher.running = true → t.dispatcher.started = true →
      t.dispatcher.queue = q →
      Run w t (q.map .delivered) (w.deliverAll q)
        { t with dispatcher := { t.dispatcher with queue := [],
                                                   dispatched := t.dispatcher.dispatched + q.length } } := by
  induction q with
  | nil =>
    intro w t _ _ hqueue
    obtain ⟨⟨capacity, queue, running, started, dispatched⟩, senders, waiting⟩ := t
    simp only at hqueue
    subst hqueue
    exact .refl _ _
  | cons e rest ih =>
    intro w t hrunning hstarted hqueue
    refine .step (.deliver e rest hrunning hstarted hqueue) ?_
    have hrest := ih (w.deliverLocal e).2
      { t with dispatcher := { t.dispatcher with queue := rest,
                                                 dispatched := t.dispatcher.dispatched + 1 } }
      hrunning hstarted rfl
    obtain ⟨⟨capacity, queue, running, started, dispatched⟩, senders, waiting⟩ := t
    simp only [List.length_cons] at hrest ⊢
    rwa [show dispatched + (rest.length + 1) = dispatched + 1 + rest.length by omega]

/-- Running the task until its queue is empty: it starts if it has not, and hands on the queue. -/
theorem run_runDispatcher (w : World) (t : Transport) (hrunning : t.dispatcher.running = true) :
    Run w t ((if t.dispatcher.started then [] else [.started]) ++
        t.dispatcher.queue.map .delivered)
      (w.runDispatcher t.dispatcher).1 { t with dispatcher := (w.runDispatcher t.dispatcher).2 } := by
  obtain ⟨⟨capacity, queue, running, started, dispatched⟩, senders, waiting⟩ := t
  simp only at hrunning
  subst hrunning
  cases started with
  | true => exact run_deliverAll queue w _ rfl rfl rfl
  | false => exact .step (.start rfl rfl) (run_deliverAll queue _ _ rfl rfl rfl)

/-- Once every sender is dropped, the task drains: it starts if it has not, hands on the queue in
order and ends, leaving the world that waiting for it leaves. -/
theorem run_drain (w : World) (t : Transport) (hsenders : t.senders = 0)
    (hrunning : t.dispatcher.running = true) :
    Run w t (drainLabels t) (w.finish t.dispatcher)
      { t with dispatcher := { (w.runDispatcher t.dispatcher).2 with running := false } } := by
  have hrun := run_runDispatcher w t hrunning
  have hstop : Step (w.runDispatcher t.dispatcher).1 { t with dispatcher := (w.runDispatcher t.dispatcher).2 }
      .stopped (w.finish t.dispatcher)
      { t with dispatcher := { (w.runDispatcher t.dispatcher).2 with running := false } } := by
    unfold World.finish
    rw [if_pos hrunning]
    exact .stop hrunning rfl rfl hsenders
  exact hrun.append (.single hstop)

/-! ## The sessions' schedule is a run -/

theorem result?_map_delivered (q : List Envelope) : (q.map .delivered).filterMap Label.result? = [] := by
  simp [List.filterMap_map, Function.comp_def]

/-- The drain hands on and ends, and returns no send. -/
theorem result?_drainLabels (t : Transport) : (drainLabels t).filterMap Label.result? = [] := by
  unfold drainLabels
  rw [List.filterMap_append, List.filterMap_append, result?_map_delivered]
  split <;> rfl

/-- A send of the sessions' schedule is a run: the send begins; if the task is alive and the queue
is full, the task runs until the queue is empty; then the send is queued, or refused once the task
has stopped. -/
theorem run_send (w : World) (d : Dispatcher) (o : Outgoing) {n : Nat} (hn : 0 < n)
    (hcap : 0 < d.capacity) :
    ∃ labels, Run w ⟨d, n, []⟩ labels (w.send d o).2.1 ⟨(w.send d o).2.2, n, []⟩ ∧
      labels.filterMap Label.result? = [(w.send d o).1] := by
  have hcall : Step w ⟨d, n, []⟩ (.call (w.envelopeOf o).1) (w.envelopeOf o).2
      ⟨d, n, [(w.envelopeOf o).1]⟩ := .call o hn
  unfold World.send
  generalize w.envelopeOf o = p at hcall ⊢
  obtain ⟨e, w₁⟩ := p
  cases hrunning : d.running with
  | false =>
    -- the task has stopped: the send is refused
    refine ⟨[.call e, .returned e (.error .closed)], .step hcall ?_, rfl⟩
    simp only [Bool.false_eq_true, if_false]
    exact .single (.refuse [] [] e rfl hrunning)
  | true =>
    simp only [if_true]
    by_cases hroom : d.queue.length < d.capacity
    · -- room in the queue: the send is queued at once
      simp only [hroom, if_true]
      exact ⟨_, .step hcall (.single (.accept [] [] e rfl hrunning hroom)), rfl⟩
    · -- a full queue: the task runs until it is empty, then the send is queued
      simp only [hroom, if_false]
      have hrun := run_runDispatcher w₁ ⟨d, n, [e]⟩ hrunning
      have haccept : Step (w₁.runDispatcher d).1 ⟨(w₁.runDispatcher d).2, n, [e]⟩
          (.returned e (.ok ())) (w₁.runDispatcher d).1
          ⟨{ (w₁.runDispatcher d).2 with queue := (w₁.runDispatcher d).2.queue ++ [e] }, n, []⟩ :=
        .accept [] [] e rfl hrunning (by simpa [World.runDispatcher] using hcap)
      refine ⟨_, .step hcall (hrun.append (.single haccept)), ?_⟩
      rw [List.filterMap_cons_none rfl, List.append_assoc, List.filterMap_append,
        List.filterMap_append, result?_map_delivered]
      split <;> rfl

/-- What a send the caller made returned; nothing for an item the caller could not send. -/
def sendResult {ε : Type} : Except (ε ⊕ HostError) Unit → Option (Except HostError Unit)
  | .ok () => some (.ok ())
  | .error (.inr e) => some (.error e)
  | .error (.inl _) => none

/-- Sends made one after another by one sender are a run, when each is. -/
theorem run_foldl {ε : Type}
    (f : List (Except (ε ⊕ HostError) Unit) × World × Dispatcher → Except ε Outgoing →
      List (Except (ε ⊕ HostError) Unit) × World × Dispatcher)
    (hf : ∀ acc item, 0 < acc.2.2.capacity → ∃ labels,
      Run acc.2.1 ⟨acc.2.2, 1, []⟩ labels (f acc item).2.1 ⟨(f acc item).2.2, 1, []⟩ ∧
      (f acc item).1.filterMap sendResult =
        acc.1.filterMap sendResult ++ labels.filterMap Label.result?)
    (items : List (Except ε Outgoing)) :
    ∀ acc, 0 < acc.2.2.capacity → ∃ labels,
      Run acc.2.1 ⟨acc.2.2, 1, []⟩ labels (items.foldl f acc).2.1
        ⟨(items.foldl f acc).2.2, 1, []⟩ ∧
      (items.foldl f acc).1.filterMap sendResult =
        acc.1.filterMap sendResult ++ labels.filterMap Label.result? := by
  induction items with
  | nil => exact fun acc _ => ⟨[], .refl _ _, by simp⟩
  | cons item rest ih =>
    intro acc hcap
    obtain ⟨labels₁, hrun₁, hres₁⟩ := hf acc item hcap
    -- a send keeps the bound of the queue
    have hcap₁ : 0 < (f acc item).2.2.capacity := by
      have := hrun₁.capacity_eq
      simp only at this
      omega
    obtain ⟨labels₂, hrun₂, hres₂⟩ := ih (f acc item) hcap₁
    refine ⟨labels₁ ++ labels₂, hrun₁.append hrun₂, ?_⟩
    rw [List.foldl_cons, hres₂, hres₁, List.filterMap_append, List.append_assoc]

/-- A start, then sends made one after another by the one sender, then dropping the sender and
waiting for the task to end: a run that leaves the task stopped and no sender alive, and returns
what the sends returned. -/
theorem run_sends_finish {ε : Type}
    (f : List (Except (ε ⊕ HostError) Unit) × World × Dispatcher → Except ε Outgoing →
      List (Except (ε ⊕ HostError) Unit) × World × Dispatcher)
    (hf : ∀ acc item, 0 < acc.2.2.capacity → ∃ labels,
      Run acc.2.1 ⟨acc.2.2, 1, []⟩ labels (f acc item).2.1 ⟨(f acc item).2.2, 1, []⟩ ∧
      (f acc item).1.filterMap sendResult =
        acc.1.filterMap sendResult ++ labels.filterMap Label.result?)
    (items : List (Except ε Outgoing)) (acc : List (Except (ε ⊕ HostError) Unit) × World × Dispatcher)
    (labels₀ : List Label) (hcap : 0 < acc.2.2.capacity)
    (hstart : Run w t labels₀ acc.2.1 ⟨acc.2.2, 1, []⟩)
    (hres₀ : labels₀.filterMap Label.result? = acc.1.filterMap sendResult) :
    ∃ labels t', Run w t labels ((items.foldl f acc).2.1.finish (items.foldl f acc).2.2) t' ∧
      t'.dispatcher.running = false ∧ t'.senders = 0 ∧
      labels.filterMap Label.result? = (items.foldl f acc).1.filterMap sendResult := by
  obtain ⟨labels₁, hrun₁, hres₁⟩ := run_foldl f hf items acc hcap
  generalize items.foldl f acc = r at hrun₁ hres₁ ⊢
  obtain ⟨out, w₂, d₂⟩ := r
  have hdrop : Step w₂ ⟨d₂, 1, []⟩ .drop w₂ ⟨d₂, 0, []⟩ := .drop (by simp)
  have hsends := hstart.append (hrun₁.append (Run.single hdrop))
  -- the task runs to its end if it is still alive
  cases hrunning : d₂.running with
  | false =>
    have hfinish : w₂.finish d₂ = w₂ := by simp [World.finish, hrunning]
    refine ⟨_, _, hfinish ▸ hsends, hrunning, rfl, ?_⟩
    simp [List.filterMap_append, hres₀, hres₁]
  | true =>
    refine ⟨_, _, hsends.append (run_drain w₂ ⟨d₂, 0, []⟩ rfl hrunning), rfl, rfl, ?_⟩
    rw [List.filterMap_append, result?_drainLabels, List.append_nil]
    simp [List.filterMap_append, hres₀, hres₁]

/-- The schedule sessions run is a run of the transport, from a just-spawned dispatcher: it may
abort the task first, then makes its sends one after another, then drops the sender and waits for
the task to end. The run returns to the sends what the schedule reports for them. -/
theorem run_dispatch {ε : Type} (w : World) (capacity : Nat) (abort : Bool)
    (items : List (Except ε Outgoing)) :
    ∃ labels t, Run w (spawn capacity) labels (w.dispatch capacity abort items).2 t ∧
      t.dispatcher.running = false ∧ t.senders = 0 ∧
      labels.filterMap Label.result? = (w.dispatch capacity abort items).1.filterMap sendResult := by
  unfold World.dispatch
  dsimp only
  refine run_sends_finish _ (fun acc item hcap => ?_) items _ (if abort then [.aborted] else [])
    ?_ ?_ ?_
  · -- each item: a send, or nothing for an item that could not be sent
    obtain ⟨out, w, d⟩ := acc
    cases item with
    | error x => exact ⟨[], .refl _ _, by simp [sendResult]⟩
    | ok o =>
      obtain ⟨labels, hrun, hres⟩ := run_send w d o Nat.one_pos hcap
      dsimp only
      refine ⟨labels, ?_⟩
      split
      · next w' d' heq => rw [heq] at hrun hres; exact ⟨hrun, by simp [sendResult, hres]⟩
      · next e w' d' heq => rw [heq] at hrun hres; exact ⟨hrun, by simp [sendResult, hres]⟩
  · have hbound : 0 < max capacity 1 := by omega
    cases abort <;> exact hbound
  · cases abort
    · exact .refl _ _
    · exact .single (.abort rfl)
  · cases abort <;> rfl

/-! ## Every run from a spawned dispatcher -/

/-- From a just-spawned dispatcher, the queue's bound is the capacity raised to one, and only live
senders wait on a send. -/
theorem Run.of_spawn {capacity : Nat} (h : Run w (spawn capacity) labels w' t) :
    t.dispatcher.capacity = max capacity 1 ∧ t.waiting.length ≤ t.senders :=
  ⟨h.capacity_eq, h.waiting_le (by simp [spawn])⟩

/-- The dispatcher hands on exactly what was accepted. Over every interleaving of sends, sender
clones and drops, and task steps from a just-spawned dispatcher: the envelopes handed to the local
table, followed by those still queued, are those whose send returned `Ok`, in the order they were
queued; the queue never holds more than the capacity raised to one; and once the task has ended
normally, it has handed on each accepted envelope once, in order. Once every sender is dropped, the
task runs to its end, handing on everything queued, after which no step is possible, and no run
without an abort does anything else. Once the task has stopped, every send that returns is refused
as closed and nothing more is handed on. The schedule sessions run is one of these runs, and returns
to each send what the run does. -/
theorem dispatcher_delivers_accepted :
    (∀ (capacity : Nat) (w : World) (labels : List Label) (w' : World) (t : Transport),
      Run w (spawn capacity) labels w' t →
      delivered labels ++ t.dispatcher.queue = accepted labels ∧
      t.dispatcher.queue.length ≤ max capacity 1 ∧
      (Label.stopped ∈ labels → delivered labels = accepted labels) ∧
      (t.senders = 0 → t.dispatcher.running = true →
        (∃ t₁, Run w' t (drainLabels t) (w'.finish t.dispatcher) t₁ ∧
          ∀ l w₂ t₂, ¬ Step (w'.finish t.dispatcher) t₁ l w₂ t₂) ∧
        ∀ labels₁ w₁ t₁, Run w' t labels₁ w₁ t₁ → Label.aborted ∉ labels₁ →
          labels₁ <+: drainLabels t) ∧
      (t.dispatcher.running = false → ∀ labels₁ w₁ t₁, Run w' t labels₁ w₁ t₁ →
        accepted labels₁ = [] ∧ delivered labels₁ = [] ∧
        ∀ e r, Label.returned e r ∈ labels₁ → r = .error .closed)) ∧
    (∀ (ε : Type) (w : World) (capacity : Nat) (abort : Bool) (items : List (Except ε Outgoing)),
      ∃ labels t, Run w (spawn capacity) labels (w.dispatch capacity abort items).2 t ∧
        t.dispatcher.running = false ∧ t.senders = 0 ∧
        labels.filterMap Label.result? = (w.dispatch capacity abort items).1.filterMap sendResult) := by
  refine ⟨fun capacity w labels w' t hrun => ?_, fun ε w capacity abort items =>
    run_dispatch w capacity abort items⟩
  obtain ⟨hcap, hwaiting⟩ := hrun.of_spawn
  -- the spawned queue is empty, so what is queued is what was accepted and not yet handed on
  have hacc : delivered labels ++ t.dispatcher.queue = accepted labels := by
    simpa [spawn, Dispatcher.spawn] using hrun.queue_accounted.symm
  refine ⟨hacc, hcap ▸ hrun.queue_le (by simp [spawn, Dispatcher.spawn]), fun hstopped => ?_,
    fun hsenders hrunning => ?_, fun hstopped labels₁ w₁ t₁ hrun₁ => ?_⟩
  · rw [← hacc, hrun.queue_of_stopped hstopped, List.append_nil]
  · -- no sender is left, so none waits
    have hidle : t.waiting = [] := List.eq_nil_of_length_eq_zero (by omega)
    refine ⟨⟨_, run_drain w' t hsenders hrunning, fun l w₂ t₂ => Step.not_of_ended hsenders hidle rfl⟩,
      fun labels₁ w₁ t₁ hrun₁ habort => drain_forced hrun₁ hsenders hidle habort⟩
  · obtain ⟨-, -, hacc₁, hdel₁, hret₁⟩ := hrun₁.of_stopped hstopped
    exact ⟨hacc₁, hdel₁, hret₁⟩

end Transport

end ChannelBridge
