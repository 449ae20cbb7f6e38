import ChannelBridge.Proofs.Session.Trace

/-! # Which listeners a step runs

A step runs a listener only if, when the step starts, the listener is active and the host holds
a registration of it. A delivery takes its listeners from the host (a local table's live
registrations of the channel, or every registration of a broadcasting host) and calls each one
still active when its turn comes; nothing in a delivery, or in a dispatch, makes a listener active
or adds a registration, so the host holds at the turn of each listener no more than it held when
the step began.

* `held_of_moves`: a run of moves adds no registration to the host.
* `RunsHeld`: every run among some marks is of a listener active and held in a given world;
  `runsHeld_deliverStep`, `runsHeld_dispatchStep` and the others, one per operation that delivers.
-/

namespace ChannelBridge

/-! ## Registrations that moves remove -/

namespace Registry

variable {r r' : Registry} {l : Nat}

/-- A table whose every channel holds fewer registrations holds fewer listeners. -/
theorem mem_listeners_of_entries (h : ∀ c, r'.entries c ⊆ r.entries c) (hl : l ∈ r'.listeners) :
    l ∈ r.listeners := by
  obtain ⟨c, reg, hreg, rfl⟩ := mem_listeners.1 hl
  exact mem_listeners.2 ⟨c, reg, h c hreg, rfl⟩

theorem entries_unlisten_subset (r : Registry) (c d : Channel) (id : Nat) :
    (r.unlisten c id).2.entries d ⊆ r.entries d := by
  rw [entries_unlisten]
  split
  · next hd => subst hd; exact List.eraseP_subset
  · exact List.Subset.refl _

theorem entries_prune_subset (r : Registry) (c d : Channel) (active : Nat → Bool) :
    (r.prune c active).2.entries d ⊆ r.entries d := by
  rw [entries_prune]
  split
  · next hd => subst hd; exact fun _ hx => (List.mem_filter.1 hx).1
  · exact List.Subset.refl _

theorem entries_close_subset (r : Registry) (d : Channel) : r.close.2.entries d ⊆ r.entries d := by
  rw [entries_close]
  exact List.nil_subset _

end Registry

namespace Host

variable {l : Nat}

/-- A local table is part of what its host holds. -/
theorem mem_held_of_table {h : Host} (hl : l ∈ h.table.listeners) : l ∈ h.held := by
  cases h <;> simp_all [held, table]

/-- A host whose table loses registrations holds fewer listeners. -/
theorem mem_held_of_setTable {h : Host} {t : Registry} (ht : ∀ c, t.entries c ⊆ h.table.entries c)
    (hl : l ∈ (h.setTable t).held) : l ∈ h.held := by
  cases h with
  | broadcast fan spare =>
    simp only [held, setTable, List.mem_append] at hl ⊢
    exact hl.imp id fun hl => Registry.mem_listeners_of_entries ht hl
  | _ => exact Registry.mem_listeners_of_entries ht hl

/-- Removing a registration removes at most one listener from the host. -/
theorem mem_held_of_unlisten {h : Host} {c : Channel} {id : Nat}
    (hl : l ∈ (h.unlisten c id).2.held) : l ∈ h.held := by
  cases h with
  | broadcast fan spare =>
    simp only [unlisten, Broadcast.unlisten] at hl
    split at hl
    · simp only [held, Broadcast.listeners, List.mem_append, List.mem_map] at hl ⊢
      rcases hl with ⟨x, hx, hxl⟩ | hl
      · exact .inl ⟨x, List.mem_of_mem_eraseP hx, hxl⟩
      · exact .inr hl
    · exact hl
  | failing r a b spare => exact hl
  | «local» t => exact Registry.mem_listeners_of_entries (t.entries_unlisten_subset c · id) hl
  | counting t a b d => exact Registry.mem_listeners_of_entries (t.entries_unlisten_subset c · id) hl
  | delayed t a => exact Registry.mem_listeners_of_entries (t.entries_unlisten_subset c · id) hl

end Host

namespace World

variable {w w' : World} {l : Nat}

/-- Cancelling a handle removes at most its own registration. -/
theorem held_of_cancelHandle (v : World) (h : Handle) (hl : l ∈ (v.cancelHandle h).host.held) :
    l ∈ v.host.held := by
  have hhost : (v.cancelHandle h).host = (v.cancel h.subscription).host := by
    cases h <;> rfl
  rw [hhost, host_cancel] at hl
  split at hl
  · exact Host.mem_held_of_unlisten hl
  · exact hl

/-- No move adds a registration to the host. -/
theorem held_of_move (hmove : Move w w') (hl : l ∈ w'.host.held) : l ∈ w.host.held := by
  cases hmove with
  | dequeue q => rwa [(dequeue_frame w q).2.2.1] at hl
  | nextEvent =>
    exact Host.mem_held_of_setTable (t := w.host.table.nextEvent.2) (fun _ => List.Subset.refl _) hl
  | prune c => exact Host.mem_held_of_setTable (fun d => Registry.entries_prune_subset _ c d _) hl
  | cancelHandle hh => exact held_of_cancelHandle w _ hl
  | dropHandle name =>
    unfold dropHandle at hl
    split at hl
    · exact held_of_cancelHandle { w with handles := unbind w.handles name } _ hl
    · exact hl
  | closeTable =>
    rw [closeTable_eq, host_logEvent, host_retireAll] at hl
    exact Host.mem_held_of_setTable (fun d => Registry.entries_close_subset _ d) hl
  | bump b f => rwa [host_bump] at hl
  | _ => exact hl

theorem held_of_moves (hrun : Moves w w') (hl : l ∈ w'.host.held) : l ∈ w.host.held := by
  induction hrun with
  | refl => exact hl
  | tail _ hstep ih => exact ih (held_of_move hstep hl)

/-- No move makes a queue. -/
theorem size_queues_move (hmove : Move w w') : w'.queues.size = w.queues.size := by
  cases hmove with
  | enqueue q p => exact size_queues_enqueue w q p
  | dequeue q => exact (dequeue_frame w q).2.2.2.1
  | cancelHandle hh => exact size_queues_cancelHandle w _
  | dropHandle name =>
    unfold dropHandle
    split
    · exact size_queues_cancelHandle _ _
    · rfl
  | closeTable => simp [closeTable_eq, setTable]
  | bump b f => rw [queues_bump]
  | _ => rfl

/-- A run of moves makes no listener and no queue. -/
theorem size_moves (hrun : Moves w w') :
    w'.listeners.size = w.listeners.size ∧ w'.queues.size = w.queues.size := by
  induction hrun with
  | refl => exact ⟨rfl, rfl⟩
  | tail _ hstep ih => exact ⟨(size_move hstep).trans ih.1, (size_queues_move hstep).trans ih.2⟩

/-- A listener active after a run of moves was active before it. -/
theorem active_of_moves (hrun : Moves w w') (hact : w'.isActive l = true) : w.isActive l = true :=
  (Grows.moves hrun).active_of_size (size_moves hrun).1 hact

/-! ## Marks that run no listener -/

theorem mem_cancelMarks {v : World} {s : Subscription} {m : Mark} (hm : m ∈ v.cancelMarks s) :
    m = .cancelled s ∧ v.isActive s.listener = true := by
  unfold cancelMarks at hm
  split at hm
  · next hact => exact ⟨List.mem_singleton.1 hm, hact⟩
  · cases hm

variable {h : Handler} {e : Envelope}

theorem not_ran_cancelMarks (v : World) (s : Subscription) : .ran l h e ∉ v.cancelMarks s :=
  fun hm => by cases (mem_cancelMarks hm).1

theorem not_ran_dropMarks (v : World) (name : String) : .ran l h e ∉ v.dropMarks name := by
  unfold dropMarks
  split
  · exact not_ran_cancelMarks _ _
  · simp

/-- A reaction cancels at most: it runs no listener. -/
theorem not_ran_reactMarks (v : World) (r : Reaction) : .ran l h e ∉ v.reactMarks r := by
  cases r with
  | cancel name =>
    simp only [reactMarks]
    split
    · exact not_ran_cancelMarks _ _
    · simp
  | drop name =>
    simp only [reactMarks]
    split
    · exact not_ran_dropMarks _ _
    · simp
  | close => simp [reactMarks]

theorem not_ran_reactionsMarks (v : World) (rs : List Reaction) :
    .ran l h e ∉ v.reactionsMarks rs := by
  induction rs generalizing v with
  | nil => simp [reactionsMarks]
  | cons r rest ih =>
    simp only [reactionsMarks, List.mem_append, not_or]
    exact ⟨not_ran_reactMarks v r, ih _⟩

theorem not_ran_unwrapMarks (v : World) (c : Channel) (sink : Sink) (e' : Envelope) :
    .ran l h e ∉ v.unwrapMarks c sink e' := by
  unfold unwrapMarks
  split
  · simp
  · split
    · simp
    · cases sink with
      | record handle r rs => exact not_ran_reactionsMarks _ rs
      | queue q => simp [sinkMarks]

/-- A call runs its own listener only. -/
theorem ran_invokeMarks {v : World} {l' : Nat} {e' : Envelope} (hm : .ran l h e ∈ v.invokeMarks l' e') :
    l = l' := by
  unfold invokeMarks at hm
  split at hm
  · rcases List.mem_append.1 hm with hm | hm
    · exact absurd hm (not_ran_unwrapMarks _ _ _ _)
    · cases List.mem_singleton.1 hm
      rfl
  · cases List.mem_singleton.1 hm
    rfl
  · cases hm

/-- A delivery to a list of listeners runs listeners of the list, active when it starts. -/
theorem ran_deliverToMarks {v : World} {e' : Envelope} {ls : List Nat}
    (hm : .ran l h e ∈ v.deliverToMarks e' ls) : l ∈ ls ∧ v.isActive l = true := by
  induction ls generalizing v with
  | nil => cases hm
  | cons l' rest ih =>
    unfold deliverToMarks at hm
    split at hm
    · next hact =>
      rcases List.mem_append.1 hm with hm | hm
      · cases ran_invokeMarks hm
        exact ⟨List.mem_cons_self, hact⟩
      · -- a later listener was active at its turn, so already at the start
        obtain ⟨hl, hact'⟩ := ih hm
        exact ⟨List.mem_cons_of_mem _ hl, active_of_moves (moves_invoke v l' e') hact'⟩
    · obtain ⟨hl, hact'⟩ := ih hm
      exact ⟨List.mem_cons_of_mem _ hl, hact'⟩

/-! ## Runs of held listeners -/

/-- Every run among the marks `ms` is of a listener that is active in `w` and that the host of `w`
holds a registration of. -/
def RunsHeld (w : World) (ms : List Mark) : Prop :=
  ∀ l h e, Mark.ran l h e ∈ ms → w.isActive l = true ∧ l ∈ w.host.held

namespace RunsHeld

variable {ms ms' : List Mark}

theorem of_no_runs (hms : ∀ l h e, Mark.ran l h e ∉ ms) : RunsHeld w ms :=
  fun l h e hm => absurd hm (hms l h e)

theorem append (h₁ : RunsHeld w ms) (h₂ : RunsHeld w ms') : RunsHeld w (ms ++ ms') :=
  fun l h e hm => (List.mem_append.1 hm).elim (h₁ l h e) (h₂ l h e)

/-- Runs held in a world that a run of moves leads to are held at its start. -/
theorem of_moves (hheld : RunsHeld w' ms) (hrun : Moves w w') : RunsHeld w ms := fun l h e hm =>
  have hl := hheld l h e hm
  ⟨active_of_moves hrun hl.1, held_of_moves hrun hl.2⟩

end RunsHeld

theorem deliverLocalMarks_eq (w : World) (e : Envelope) : w.deliverLocalMarks e =
    ((w.setTable (w.host.table.prune e.channel w.isActive).2).logEvent (.deliveringEnvelope
      e.channel e.id (w.host.table.prune e.channel w.isActive).1.length)).deliverToMarks e
      (w.host.table.prune e.channel w.isActive).1 := rfl

/-- A local delivery runs live registrations of the table. -/
theorem runsHeld_deliverLocal (w : World) (e : Envelope) : RunsHeld w (w.deliverLocalMarks e) := by
  intro l h e' hm
  rw [deliverLocalMarks_eq] at hm
  obtain ⟨hl, hact⟩ := ran_deliverToMarks hm
  rw [Registry.prune_fst, List.mem_map] at hl
  obtain ⟨reg, hreg, rfl⟩ := hl
  refine ⟨hact, Host.mem_held_of_table (Registry.mem_listeners.2 ⟨e.channel, reg, ?_, rfl⟩)⟩
  exact (List.mem_filter.1 hreg).1

theorem runsHeld_emitLocal (w : World) (c : Channel) (payload : Json) :
    RunsHeld w (w.emitLocalMarks c payload) :=
  RunsHeld.of_moves (runsHeld_deliverLocal _ _) (.single (.nextEvent w))

theorem runsHeld_deliverAll (w : World) (es : List Envelope) : RunsHeld w (w.deliverAllMarks es) := by
  induction es generalizing w with
  | nil => exact RunsHeld.of_no_runs fun _ _ _ hm => by cases hm
  | cons e rest ih =>
    exact (runsHeld_deliverLocal w e).append (RunsHeld.of_moves (ih _) (moves_deliverLocal w e))

theorem runsHeld_runDispatcher (w : World) (d : Dispatcher) :
    RunsHeld w (w.runDispatcherMarks d) := by
  unfold runDispatcherMarks
  split
  · exact runsHeld_deliverAll w d.queue
  · exact RunsHeld.of_moves (runsHeld_deliverAll _ _) (.single (.logEvent _ _))

theorem runsHeld_send (w : World) (d : Dispatcher) (o : Outgoing) : RunsHeld w (w.sendMarks d o) := by
  have henv := moves_envelopeOf w o
  unfold sendMarks
  rcases hx : w.envelopeOf o with ⟨e, w₁⟩
  rw [hx] at henv
  dsimp only
  split
  · split
    · exact RunsHeld.of_no_runs fun _ _ _ hm => by cases hm
    · exact RunsHeld.of_moves (runsHeld_runDispatcher w₁ d) henv
  · exact RunsHeld.of_no_runs fun _ _ _ hm => by cases hm

theorem runsHeld_sendAll {ε : Type} (w : World) (d : Dispatcher) (items : List (Except ε Outgoing)) :
    RunsHeld w (w.sendAllMarks d items) := by
  induction items generalizing w d with
  | nil =>
    unfold sendAllMarks finishMarks
    split
    · exact runsHeld_runDispatcher w d
    · exact RunsHeld.of_no_runs fun _ _ _ hm => by cases hm
  | cons item rest ih =>
    cases item with
    | error x => exact ih w d
    | ok o => exact (runsHeld_send w d o).append (RunsHeld.of_moves (ih _ _) (moves_send w d o))

end World

namespace Protocol

open World

theorem runsHeld_deliverStep (w : World) (e : Envelope) : RunsHeld w (deliverStepMarks w e) := by
  unfold deliverStepMarks
  split
  · next fan spare hhost =>
    -- a broadcasting host hands the envelope to every listener it holds
    intro l h e' hm
    obtain ⟨hl, hact⟩ := ran_deliverToMarks hm
    refine ⟨hact, ?_⟩
    rw [hhost]
    exact List.mem_append_left _ hl
  · exact runsHeld_deliverLocal w e

theorem runsHeld_emitTyped (w : World) (p : Payload) : RunsHeld w (emitTypedMarks w p) := by
  unfold emitTypedMarks
  split
  · exact RunsHeld.of_no_runs fun _ _ _ hm => by cases hm
  · exact runsHeld_emitLocal w _ _

theorem runsHeld_dispatchStep (w : World) (step : Json) : RunsHeld w (dispatchStepMarks w step) := by
  unfold dispatchStepMarks
  split
  · exact RunsHeld.of_no_runs fun _ _ _ hm => by cases hm
  · split
    · exact RunsHeld.of_no_runs fun _ _ _ hm => by cases hm
    · exact runsHeld_sendAll w _ _

end Protocol

end ChannelBridge
