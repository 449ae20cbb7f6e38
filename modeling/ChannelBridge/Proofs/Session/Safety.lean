import ChannelBridge.Proofs.Session.Delivery

/-! # Listener safety on every host

Whatever host delivers an envelope, and to whichever listeners, the call of one listener goes
through two gates before it reaches a subscription: the listener's flag, checked when its turn
comes, and the bridge handler's check of the envelope's channel and of the payload's decoding for
that channel. Neither gate depends on the host; a host that hands every envelope to every listener,
or one that was closed, gets no further than the gates let it.

* `deliveries_turn_callback`, `turn_stream`: what one call adds, for a callback and for a stream.
* `runSession_preserves`, `Grows.runSession`, `Wired.runSession`: what a run of steps keeps, on any
  host.
* `handle_calls_gated`: a handle's listener is reached only through both gates, and a handle once
  cancelled stays cancelled.
-/

namespace ChannelBridge

/-- A recording callback reports the payload decoded for its channel, when the envelope is on that
channel and decodes. -/
theorem Handler.calls_record (e : Envelope) (c : Channel) (b : BridgeRef) (n : String) (r : Nat)
    (rs : List Reaction) : (Handler.typed c b (.record n r rs)).calls e =
      if e.channel = c then (Payload.decode c e.payload).toOption.toList.map (.payload n) else [] := by
  simp only [Handler.calls]
  by_cases hc : e.channel = c
  · rw [if_pos hc, if_pos hc]
    cases Payload.decode c e.payload <;> rfl
  · rw [if_neg hc, if_neg hc]

/-- A stream handler appends to its own queue the payload decoded for its channel, when the
envelope is on that channel and decodes, and nothing to any other queue. -/
theorem Handler.queuedTo_queue (e : Envelope) (c : Channel) (b : BridgeRef) (q q' : Nat) :
    (Handler.typed c b (.queue q)).queuedTo e q' =
      if q' = q ∧ e.channel = c then (Payload.decode c e.payload).toOption.toList else [] := by
  unfold Handler.queuedTo
  simp only [Handler.queued]
  by_cases hc : e.channel = c
  · cases hd : Payload.decode c e.payload with
    | error err => simp [hc, Except.toOption]
    | ok p =>
      by_cases hq : q' = q
      · subst hq
        simp [hc, Except.toOption]
      · simp [hc, hq, Ne.symm hq]
  · simp [hc]

namespace World

variable {w : World}

/-! ## One call -/

/-- A listener retired before its turn is skipped: nothing changes and it is not counted. -/
theorem turn_of_inactive (e : Envelope) (k : Nat) {l : Nat} (h : w.isActive l = false) :
    turn e (k, w) l = (k, w) := by
  unfold turn
  rw [if_neg (by simp [h])]

/-- A listener still active at its turn runs its handler and is counted. -/
theorem turn_of_active (e : Envelope) (k : Nat) {l : Nat} (h : w.isActive l = true) :
    turn e (k, w) l = (k + 1, w.invoke l e) := by
  unfold turn
  rw [if_pos h]

/-- The call of a callback subscription's listener reports the payload decoded for the
subscription's channel under the handle's name, and nothing else; only when the listener is active
and the envelope is on that channel. -/
theorem deliveries_turn_callback (hw : w.Wired) (e : Envelope) (k : Nat) {n : String}
    {s : Subscription} (hm : (n, Handle.callback s) ∈ w.handles) :
    (turn e (k, w) s.listener).2.deliveries.toList = w.deliveries.toList ++
      if w.isActive s.listener = true ∧ e.channel = s.channel then
        (Payload.decode s.channel e.payload).toOption.toList.map (.payload n) else [] := by
  obtain ⟨r, rs, hl⟩ := hw.callback_wired hm
  cases hact : w.isActive s.listener with
  | false =>
    rw [turn_of_inactive e k hact]
    simp
  | true =>
    rw [turn_of_active e k hact, deliveries_invoke, hl, Option.map_some, Option.getD_some,
      Handler.calls_record]
    by_cases hc : e.channel = s.channel <;> simp [hc]

/-- The call of a stream's listener makes no listener call; it appends the payload decoded for the
stream's channel to the stream's queue, only when the listener is active and the envelope is on that
channel, and leaves every other queue alone. -/
theorem turn_stream (hw : w.Wired) (e : Envelope) (k : Nat) {n : String} {s : Subscription}
    {q : Nat} (hm : (n, Handle.stream s q) ∈ w.handles) :
    (turn e (k, w) s.listener).2.deliveries = w.deliveries ∧
    ∀ q', ((turn e (k, w) s.listener).2.queues[q']?).map (·.items) =
      (w.queues[q']?).map fun x => x.items ++
        if q' = q ∧ w.isActive s.listener = true ∧ e.channel = s.channel then
          (Payload.decode s.channel e.payload).toOption.toList else [] := by
  have hl := hw.stream_wired hm
  cases hact : w.isActive s.listener with
  | false =>
    rw [turn_of_inactive e k hact]
    refine ⟨rfl, fun q' => ?_⟩
    cases w.queues[q']? <;> simp
  | true =>
    rw [turn_of_active e k hact]
    refine ⟨?_, fun q' => ?_⟩
    · -- a stream's handler reports nothing
      have hcalls := deliveries_invoke w s.listener e
      rw [hl] at hcalls
      exact Array.toList_inj.1 (by simpa [Handler.calls] using hcalls)
    · rw [getElem?_queues_invoke, hl, Option.map_some, Option.getD_some, Handler.queuedTo_queue]
      by_cases hq : q' = q
      · -- the stream's own queue is open while its listener is active
        subst hq
        obtain ⟨x, hx, hopen⟩ := getElem?_of_queueClosed (hw.stream_open hm hact)
        simp [hx, hopen]
      · cases w.queues[q']? <;> simp [hq]

/-! ## Runs of steps -/

/-- A fold that carries something beside a state, and moves the state by `g` alone, ends where
the fold of `g` does. -/
theorem snd_foldl_of_snd {σ α β : Type} (F : σ × α → β → σ × α) (g : α → β → α)
    (hF : ∀ acc b, (F acc b).2 = g acc.2 b) (l : List β) (acc : σ × α) :
    (l.foldl F acc).2 = l.foldl g acc.2 := by
  induction l generalizing acc with
  | nil => rfl
  | cons b rest ih => rw [List.foldl_cons, ih, hF, List.foldl_cons]

/-- The world a run of steps ends in: each step starts from the world the one before left. -/
theorem runSession_snd (w : World) (steps : List Json) :
    (Protocol.runSession w steps).2 =
      steps.foldl (fun w step => (Protocol.sessionStep w step).2) w := by
  unfold Protocol.runSession
  -- the answers gathered so far do not reach the world
  exact snd_foldl_of_snd _ _ (fun acc step => rfl) steps (#[], w)

/-- A property every step keeps is kept by every run of steps. -/
theorem runSession_preserves {P : World → Prop}
    (hstep : ∀ w step, P w → P (Protocol.sessionStep w step).2) (steps : List Json) (hw : P w) :
    P (Protocol.runSession w steps).2 := by
  rw [runSession_snd]
  induction steps generalizing w with
  | nil => exact hw
  | cons step rest ih => exact ih (hstep w step hw)

/-- A run of steps, on any host, keeps every listener with its handler and turns none back on. -/
theorem Grows.runSession (w : World) (steps : List Json) :
    Grows w (Protocol.runSession w steps).2 :=
  runSession_preserves (fun v step hg => hg.trans (Grows.sessionStep v step)) steps (Grows.refl w)

/-- A listener made before a change that grows the listeners and retired before it stays retired. -/
theorem Grows.inactive {w w' : World} (hg : Grows w w') {l : Nat} (hl : l < w.listeners.size)
    (h : w.isActive l = false) : w'.isActive l = false := by
  cases h' : w'.isActive l with
  | false => rfl
  | true => rw [hg.active_of hl h'] at h; cases h

/-- A run of steps, on any host, keeps the wiring. -/
theorem Wired.runSession (hw : w.Wired) (steps : List Json) : (Protocol.runSession w steps).2.Wired :=
  runSession_preserves (fun _ step h => h.sessionStep step) steps hw

/-- A session on any host is wired after any steps, and at any point of the next one. -/
theorem wired_of_session {h₀ : Host} {steps : List Json}
    (hm : Moves (Protocol.runSession (start h₀) steps).2 w) : w.Wired :=
  ((wired_start h₀).runSession steps).moves hm

/-- A handle's listener was made. -/
theorem Wired.lt_size (hw : w.Wired) {n : String} {h : Handle} (hm : (n, h) ∈ w.handles) :
    h.subscription.listener < w.listeners.size := by
  cases h with
  | callback s =>
    obtain ⟨r, rs, hl⟩ := hw.callback_wired hm
    exact lt_size_of_handlerOf hl
  | stream s q => exact lt_size_of_handlerOf (hw.stream_wired hm)

/-! ## Listener safety -/

/-- Listener safety, on every host: in a session on any host, after any steps and at any point of
the next one, the call of a handle's listener reaches the handle only when the listener is active
when its turn comes, the envelope is on the handle's channel and the payload decodes for it; it
then reports, or queues, exactly the decoded payload. A retired listener is skipped altogether.
And a handle once cancelled stays cancelled, through the rest of the step and any steps after. -/
theorem handle_calls_gated (h₀ : Host) (steps : List Json) {w : World}
    (hm : Moves (Protocol.runSession (start h₀) steps).2 w) (e : Envelope) (k : Nat) :
    (∀ l, w.isActive l = false → turn e (k, w) l = (k, w)) ∧
    (∀ n s, (n, Handle.callback s) ∈ w.handles →
      (turn e (k, w) s.listener).2.deliveries.toList = w.deliveries.toList ++
        if w.isActive s.listener = true ∧ e.channel = s.channel then
          (Payload.decode s.channel e.payload).toOption.toList.map (.payload n) else []) ∧
    (∀ n s q, (n, Handle.stream s q) ∈ w.handles →
      (turn e (k, w) s.listener).2.deliveries = w.deliveries ∧
      ∀ q', ((turn e (k, w) s.listener).2.queues[q']?).map (·.items) =
        (w.queues[q']?).map fun x => x.items ++
          if q' = q ∧ w.isActive s.listener = true ∧ e.channel = s.channel then
            (Payload.decode s.channel e.payload).toOption.toList else []) ∧
    (∀ n h, (n, h) ∈ w.handles → w.isActive h.subscription.listener = false →
      (∀ w', Moves w w' → w'.isActive h.subscription.listener = false) ∧
      ∀ more, (Protocol.runSession w more).2.isActive h.subscription.listener = false) := by
  have hw : w.Wired := wired_of_session hm
  refine ⟨fun l hoff => turn_of_inactive e k hoff, fun n s hm => deliveries_turn_callback hw e k hm,
    fun n s q hm => turn_stream hw e k hm, fun n h hm hoff => ⟨fun w' hrun => ?_, fun more => ?_⟩⟩
  · exact (Grows.moves hrun).inactive (hw.lt_size hm) hoff
  · exact (Grows.runSession w more).inactive (hw.lt_size hm) hoff

/-- A session on the broadcasting host with one callback subscription to the terminal output, under
the name `b`. -/
def broadcastTerminalSubscriber : World :=
  (Protocol.runSession (start (.broadcast .empty .empty)) [.obj [("as", .str "b"),
    ("channel", .str "terminal-output"), ("op", .str "subscribe")]]).2

/-- The broadcasting host hands an updater-check envelope to the terminal-output subscription: the
listener is active and counted, but the call reports nothing. -/
theorem broadcastTerminalSubscriber_drops_misrouted :
    Moves (Protocol.runSession (start (.broadcast .empty .empty)) [.obj [("as", .str "b"),
      ("channel", .str "terminal-output"), ("op", .str "subscribe")]]).2 broadcastTerminalSubscriber ∧
    (turn ⟨0, .updaterCheck, epoch, .null⟩ (0, broadcastTerminalSubscriber) 0).1 = 1 ∧
    (turn ⟨0, .updaterCheck, epoch, .null⟩ (0, broadcastTerminalSubscriber) 0).2.deliveries.toList =
      [] := by
  have hm : ("b", Handle.callback ⟨.terminalOutput, 1, 0, .named "main"⟩) ∈
      broadcastTerminalSubscriber.handles := by decide
  have hcall := (handle_calls_gated _ _ (w := broadcastTerminalSubscriber) .refl
    ⟨0, .updaterCheck, epoch, .null⟩ 0).2.1 _ _ hm
  refine ⟨.refl, by decide, ?_⟩
  rw [hcall]
  decide

end World

end ChannelBridge
