import ChannelBridge.Proofs.Session.Shadow

/-! # Worlds that go in lockstep

`World.Shadow g w w'` relates the world `w'` of a session in which a subscribe registered nothing
lasting to the world `w` of the same session without that call: the same host over related tables,
the same listeners moved past the retired one, the same counters, handles, raw handles, queues and
listener calls, with every number moved past the gaps `g`. Nothing reads the log, so the log is left
out.

Every operation keeps the relation when the world with the call is given the moved arguments, and
gives the same answer there, up to the moved numbers:

* the updates of a world: listeners, recordings, queues, the host (`retire`, `addListener`,
  `hostRegister`, `hostUnlisten`, …);
* the bridge: `subscribe`, `cancel`, `cancelHandle`, `dropHandle`;
* deliveries, down to each listener call: `invoke`, `deliverTo`, `deliverLocal`, `emitLocal`,
  `liveCount`, `closeTable`, and the dispatcher.
-/

namespace ChannelBridge

/-! ## Arrays with a gap, read -/

namespace Gapped

variable {α β : Type} {p : Option Nat} {f : α → β} {xs : Array α} {ys : Array β}

/-- The new place of a longer array is the moved end of the shorter one. -/
theorem size_eq_skip (h : Gapped p f xs ys) : ys.size = skip p xs.size := h.size_eq

end Gapped

/-! ## Moved values -/

/-- What registering came to, in the world with the call. -/
def World.Registered.shift (g : Gap) : World.Registered → World.Registered
  | .active s => .active (s.shift g)
  | .abandoned => .abandoned
  | .failed e => .failed e

theorem Gap.atListener_of_le (g : Gap) {l : Nat} (h : l < g.listener) : g.atListener l = l :=
  skip_of_lt fun _ e => by cases e; exact h

theorem Gap.atListener_eq_succ (g : Gap) {l : Nat} (h : g.listener ≤ l) : g.atListener l = l + 1 := by
  simp only [Gap.atListener, skip]
  split_ifs <;> omega

/-! ## Worlds -/

namespace World

/-- The world with the call (`w'`) against the world without it (`w`): a host over related tables,
the listeners moved past the gap's retired listener, the same counters and listener calls, the
handles and raw handles with moved numbers, and the recordings and queues with one more at their
gaps. -/
structure Shadow (g : Gap) (w w' : World) : Prop where
  host : Host.Shadow g w.host w'.host
  listeners : Gapped (some g.listener) (Listener.shift g) w.listeners w'.listeners
  gap_retired : w'.isActive g.listener = false
  bridges : w'.bridges = w.bridges
  handles : w'.handles = w.handles.map fun p => (p.1, p.2.shift g)
  raws : w'.raws = w.raws.map fun p => (p.1, g.atListener p.2)
  records : Gapped g.record id w.records w'.records
  queues : Gapped g.queue id w.queues w'.queues
  deliveries : w'.deliveries = w.deliveries

namespace Shadow

variable {g : Gap} {w w' : World}

/-! ### What related worlds read alike -/

theorem isActive (hs : Shadow g w w') (l : Nat) : w'.isActive (g.atListener l) = w.isActive l := by
  have hget := hs.listeners.get l
  unfold World.isActive
  rw [Gap.atListener, hget]
  cases w.listeners[l]? <;> rfl

theorem getElem?_listeners (hs : Shadow g w w') (l : Nat) :
    w'.listeners[g.atListener l]? = w.listeners[l]?.map (Listener.shift g) :=
  hs.listeners.get l

theorem stats (hs : Shadow g w w') (name : String) : w'.stats name = w.stats name := by
  simp [World.stats, hs.bridges]

theorem lookup_handles (hs : Shadow g w w') (name : String) :
    w'.handles.lookup name = (w.handles.lookup name).map (Handle.shift g) := by
  rw [hs.handles, List.lookup_map_snd]

theorem lookup_raws (hs : Shadow g w w') (name : String) :
    w'.raws.lookup name = (w.raws.lookup name).map g.atListener := by
  rw [hs.raws, List.lookup_map_snd]

theorem queueClosed (hs : Shadow g w w') (q : Nat) : w'.queueClosed (g.atQueue q) = w.queueClosed q := by
  unfold World.queueClosed
  rw [Gap.atQueue, hs.queues.get q]
  cases w.queues[q]? <;> rfl

theorem isHeld (hs : Shadow g w w') (l : Nat) : w'.isHeld (g.atListener l) = w.isHeld l := by
  unfold World.isHeld
  rw [Bool.eq_iff_iff, List.contains_iff_mem, List.contains_iff_mem]
  exact hs.host.mem_held l

theorem table (hs : Shadow g w w') : Registry.Shadow g w.host.table w'.host.table := hs.host.table

/-! ### Updates of a world -/

theorem logEvent (hs : Shadow g w w') (e e' : LogEvent) : Shadow g (w.logEvent e) (w'.logEvent e') :=
  ⟨hs.host, hs.listeners, hs.gap_retired, hs.bridges, hs.handles, hs.raws, hs.records, hs.queues,
    hs.deliveries⟩

theorem logEvent_right (hs : Shadow g w w') (e' : LogEvent) : Shadow g w (w'.logEvent e') :=
  ⟨hs.host, hs.listeners, hs.gap_retired, hs.bridges, hs.handles, hs.raws, hs.records, hs.queues,
    hs.deliveries⟩

theorem deliverCall (hs : Shadow g w w') (d : Delivery) : Shadow g (w.deliverCall d) (w'.deliverCall d) :=
  ⟨hs.host, hs.listeners, hs.gap_retired, hs.bridges, hs.handles, hs.raws, hs.records, hs.queues,
    by simp [World.deliverCall, hs.deliveries]⟩

theorem bump (hs : Shadow g w w') (b : BridgeRef) (f : BridgeStats → BridgeStats) :
    Shadow g (w.bump b f) (w'.bump b f) := by
  cases b with
  | unnamed => exact hs
  | named name =>
    exact ⟨hs.host, hs.listeners, hs.gap_retired, by simp [World.bump, hs.stats, hs.bridges],
      hs.handles, hs.raws, hs.records, hs.queues, hs.deliveries⟩

theorem setHost (hs : Shadow g w w') {h h' : Host} (hh : Host.Shadow g h h') :
    Shadow g (w.setHost h) (w'.setHost h') :=
  ⟨hh, hs.listeners, hs.gap_retired, hs.bridges, hs.handles, hs.raws, hs.records, hs.queues,
    hs.deliveries⟩

theorem setTable (hs : Shadow g w w') {t t' : Registry} (ht : Registry.Shadow g t t') :
    Shadow g (w.setTable t) (w'.setTable t') :=
  hs.setHost (hs.host.setTable ht)

theorem clearDeliveries (hs : Shadow g w w') :
    Shadow g { w with deliveries := #[] } { w' with deliveries := #[] } :=
  ⟨hs.host, hs.listeners, hs.gap_retired, hs.bridges, hs.handles, hs.raws, hs.records, hs.queues, rfl⟩

/-- Retiring a listener and its moved number. -/
theorem retire (hs : Shadow g w w') (l : Nat) : Shadow g (w.retire l) (w'.retire (g.atListener l)) where
  host := hs.host
  listeners := hs.listeners.modify l (fun x => { x with active := false })
    (fun x => { x with active := false }) fun _ => rfl
  gap_retired := by
    rw [isActive_retire_of_ne _ (g.atListener_ne l)]
    exact hs.gap_retired
  bridges := hs.bridges
  handles := hs.handles
  raws := hs.raws
  records := hs.records
  queues := hs.queues
  deliveries := hs.deliveries

/-- Making a listener, and its moved copy: the new numbers are related too. -/
theorem addListener (hs : Shadow g w w') (h : Handler) :
    (w'.addListener (h.shift g)).1 = g.atListener (w.addListener h).1 ∧
    Shadow g (w.addListener h).2 (w'.addListener (h.shift g)).2 := by
  have hgap := hs.listeners.gap_le g.listener rfl
  have hsize : w'.listeners.size = w.listeners.size + 1 := by
    rw [hs.listeners.size_eq_skip, ← Gap.atListener, g.atListener_eq_succ hgap]
  refine ⟨by rw [fst_addListener, fst_addListener, hsize, g.atListener_eq_succ hgap], ?_⟩
  refine ⟨hs.host, hs.listeners.push ⟨true, h⟩, ?_, hs.bridges, hs.handles, hs.raws, hs.records,
    hs.queues, hs.deliveries⟩
  -- the new listener comes after the gap's
  rw [isActive_addListener_eq, hs.gap_retired]
  simp only [Bool.or_false, beq_eq_false_iff_ne]
  omega

/-- Making a recording, and one more at the moved place. -/
theorem addRecording (hs : Shadow g w w') (name : String) (counted : Bool) :
    (w'.addRecording name counted).1 = g.atRecord (w.addRecording name counted).1 ∧
    Shadow g (w.addRecording name counted).2 (w'.addRecording name counted).2 :=
  ⟨hs.records.size_eq_skip, ⟨hs.host, hs.listeners, hs.gap_retired, hs.bridges, hs.handles, hs.raws,
    hs.records.push _, hs.queues, hs.deliveries⟩⟩

/-- Making a queue, and one more at the moved place. -/
theorem addQueue (hs : Shadow g w w') :
    w'.addQueue.1 = g.atQueue w.addQueue.1 ∧ Shadow g w.addQueue.2 w'.addQueue.2 :=
  ⟨hs.queues.size_eq_skip, ⟨hs.host, hs.listeners, hs.gap_retired, hs.bridges, hs.handles, hs.raws,
    hs.records, hs.queues.push _, hs.deliveries⟩⟩

theorem recordPayload (hs : Shadow g w w') (r : Nat) (p : Payload) :
    Shadow g (w.recordPayload r p) (w'.recordPayload (g.atRecord r) p) :=
  ⟨hs.host, hs.listeners, hs.gap_retired, hs.bridges, hs.handles, hs.raws,
    hs.records.modify r (fun x => ⟨x.payloads.push p, x.calls.map (· + 1)⟩)
      (fun x => ⟨x.payloads.push p, x.calls.map (· + 1)⟩) fun _ => rfl, hs.queues, hs.deliveries⟩

theorem enqueue (hs : Shadow g w w') (q : Nat) (p : Payload) :
    Shadow g (w.enqueue q p) (w'.enqueue (g.atQueue q) p) :=
  ⟨hs.host, hs.listeners, hs.gap_retired, hs.bridges, hs.handles, hs.raws, hs.records,
    hs.queues.modify q (fun x => { x with items := x.items ++ [p] })
      (fun x => { x with items := x.items ++ [p] }) fun _ => rfl, hs.deliveries⟩

theorem closeQueue (hs : Shadow g w w') (q : Nat) :
    Shadow g (w.closeQueue q) (w'.closeQueue (g.atQueue q)) :=
  ⟨hs.host, hs.listeners, hs.gap_retired, hs.bridges, hs.handles, hs.raws, hs.records,
    hs.queues.modify q (fun x => { x with closed := true }) (fun x => { x with closed := true })
      fun _ => rfl, hs.deliveries⟩

/-- Taking the first payload of a queue and of its moved copy: the same payload. -/
theorem dequeue (hs : Shadow g w w') (q : Nat) :
    (w'.dequeue (g.atQueue q)).1 = (w.dequeue q).1 ∧
    Shadow g (w.dequeue q).2 (w'.dequeue (g.atQueue q)).2 := by
  have hget : w'.queues[g.atQueue q]? = w.queues[q]? := by
    rw [Gap.atQueue, hs.queues.get q]
    simp
  unfold World.dequeue
  rw [hget]
  split
  · exact ⟨rfl, ⟨hs.host, hs.listeners, hs.gap_retired, hs.bridges, hs.handles, hs.raws, hs.records,
      hs.queues.modify q (fun x => { x with items := x.items.tail })
        (fun x => { x with items := x.items.tail }) fun _ => rfl, hs.deliveries⟩⟩
  · exact ⟨rfl, hs⟩

/-! ### The host -/

/-- Storing a registration comes to the host's storing it, perhaps logged. -/
theorem hostRegister_cases (w : World) (c : Channel) (l : Nat) :
    (w.hostRegister c l).1 = (w.host.register c l).1 ∧
    ((w.hostRegister c l).2 = w.setHost (w.host.register c l).2 ∨
      ∃ e, (w.hostRegister c l).2 = (w.setHost (w.host.register c l).2).logEvent e) := by
  unfold World.hostRegister
  rcases w.host.register c l with ⟨_ | id, host⟩
  · exact ⟨rfl, .inl rfl⟩
  · dsimp only
    split
    · exact ⟨rfl, .inr ⟨_, rfl⟩⟩
    · exact ⟨rfl, .inl rfl⟩

theorem logEvent_left (hs : Shadow g w w') (e : LogEvent) : Shadow g (w.logEvent e) w' :=
  ⟨hs.host, hs.listeners, hs.gap_retired, hs.bridges, hs.handles, hs.raws, hs.records, hs.queues,
    hs.deliveries⟩

/-- A world that differs by a log event at most stays related. -/
theorem of_logged {v v' : World} (hs : Shadow g v v')
    (hw : w = v ∨ ∃ e, w = v.logEvent e) (hw' : w' = v' ∨ ∃ e, w' = v'.logEvent e) :
    Shadow g w w' := by
  rcases hw with rfl | ⟨e, rfl⟩ <;> rcases hw' with rfl | ⟨e', rfl⟩
  · exact hs
  · exact hs.logEvent_right e'
  · exact hs.logEvent_left e
  · exact hs.logEvent e e'

/-- Registering a listener and its moved number: the moved id, or the same refusal. -/
theorem hostRegister (hs : Shadow g w w')
    (hlt : g.id ≠ none → w'.host.table.registrations.count.toNat < 2 ^ 64 - 1) (c : Channel)
    (l : Nat) :
    (w'.hostRegister c (g.atListener l)).1 = (w.hostRegister c l).1.map g.atId ∧
    Shadow g (w.hostRegister c l).2 (w'.hostRegister c (g.atListener l)).2 := by
  obtain ⟨hr, hhost⟩ := hs.host.register hlt c l
  obtain ⟨hr₀, hw₀⟩ := hostRegister_cases w c l
  obtain ⟨hr₁, hw₁⟩ := hostRegister_cases w' c (g.atListener l)
  exact ⟨by rw [hr₁, hr₀, hr], Shadow.of_logged (hs.setHost hhost) hw₀ hw₁⟩

/-- Registering and waiting for the acknowledgement, for a listener and its moved number. -/
theorem hostListen (hs : Shadow g w w')
    (hlt : g.id ≠ none → w'.host.table.registrations.count.toNat < 2 ^ 64 - 1) (c : Channel)
    (l : Nat) :
    (w'.hostListen c (g.atListener l)).1 = (w.hostListen c l).1.map g.atId ∧
    Shadow g (w.hostListen c l).2 (w'.hostListen c (g.atListener l)).2 := by
  obtain ⟨hr, hreg⟩ := hs.hostRegister hlt c l
  unfold World.hostListen
  rcases h₀ : w.hostRegister c l with ⟨_ | id, v⟩ <;>
    rcases h₁ : w'.hostRegister c (g.atListener l) with ⟨_ | id', v'⟩ <;>
    rw [h₀, h₁] at hr hreg <;> simp only [Except.map] at hr <;> cases hr
  · exact ⟨rfl, hreg⟩
  · exact ⟨rfl, hreg.setHost hreg.host.acknowledge⟩

/-- Removing an id and its moved id from the host: the same answer. -/
theorem hostUnlisten (hs : Shadow g w w') (c : Channel) (i : Nat) :
    (w'.hostUnlisten c (g.atId i)).1 = (w.hostUnlisten c i).1 ∧
    Shadow g (w.hostUnlisten c i).2 (w'.hostUnlisten c (g.atId i)).2 := by
  obtain ⟨hfound, hhost⟩ := hs.host.unlisten c i
  exact ⟨hfound, hs.setHost hhost⟩

/-! ### The bridge -/

theorem withHandles (hs : Shadow g w w') (hl : List (String × Handle)) :
    Shadow g { w with handles := hl } { w' with handles := hl.map fun p => (p.1, p.2.shift g) } :=
  ⟨hs.host, hs.listeners, hs.gap_retired, hs.bridges, rfl, hs.raws, hs.records, hs.queues,
    hs.deliveries⟩

theorem withRaws (hs : Shadow g w w') (rl : List (String × Nat)) :
    Shadow g { w with raws := rl } { w' with raws := rl.map fun p => (p.1, g.atListener p.2) } :=
  ⟨hs.host, hs.listeners, hs.gap_retired, hs.bridges, hs.handles, rfl, hs.records, hs.queues,
    hs.deliveries⟩

/-- Cancelling a subscription and its moved copy. -/
theorem cancel (hs : Shadow g w w') (s : Subscription) : Shadow g (w.cancel s) (w'.cancel (s.shift g)) := by
  unfold World.cancel
  rw [Subscription.listener_shift, hs.isActive]
  split
  · -- the listener is retired, the registration removed and the cancellation counted, alike
    obtain ⟨-, hun⟩ := (hs.retire s.listener).hostUnlisten s.channel s.registration
    exact (hun.bump s.bridge _).logEvent _ _
  · exact hs

theorem cancelHandle (hs : Shadow g w w') (h : Handle) :
    Shadow g (w.cancelHandle h) (w'.cancelHandle (h.shift g)) := by
  cases h with
  | callback s => exact hs.cancel s
  | stream s q => exact (hs.cancel s).closeQueue q

/-- Dropping a handle by name: the same answer, and the moved handle is cancelled. -/
theorem dropHandle (hs : Shadow g w w') (name : String) :
    (w'.dropHandle name).1 = (w.dropHandle name).1 ∧
    Shadow g (w.dropHandle name).2 (w'.dropHandle name).2 := by
  unfold World.dropHandle
  rw [hs.lookup_handles]
  cases w.handles.lookup name with
  | none => exact ⟨rfl, hs⟩
  | some h =>
    refine ⟨rfl, ?_⟩
    have hun := hs.withHandles (unbind w.handles name)
    rw [← unbind_map_snd, ← hs.handles] at hun
    exact hun.cancelHandle h

/-- Retiring listeners one after another turns off exactly their flags. -/
theorem getElem?_retireAll (v : World) (ls : List Nat) (i : Nat) :
    (ls.foldl World.retire v).listeners[i]? =
      v.listeners[i]?.map fun x => if i ∈ ls then { x with active := false } else x := by
  induction ls generalizing v with
  | nil => simp
  | cons l rest ih =>
    rw [List.foldl_cons, ih, listeners_retire, Array.getElem?_modify]
    cases v.listeners[i]? with
    | none => simp
    | some x =>
      by_cases hi : l = i
      · subst hi
        simp
      · have hne : i ≠ l := Ne.symm hi
        simp [hi, hne]

/-- Retiring the listeners of two lists that hold the same moved numbers, the gap's apart. -/
theorem retireAll (hs : Shadow g w w') {ls ls' : List Nat} (hmem : ∀ l, g.atListener l ∈ ls' ↔ l ∈ ls) :
    Shadow g (ls.foldl World.retire w) (ls'.foldl World.retire w') where
  host := by rw [host_retireAll, host_retireAll]; exact hs.host
  listeners := by
    refine hs.listeners.update (fun i x => if i ∈ ls then { x with active := false } else x)
      (fun j x => if j ∈ ls' then { x with active := false } else x) (size_retireAll _ _)
      (size_retireAll _ _) (getElem?_retireAll w ls) (getElem?_retireAll w' ls') fun i x => ?_
    -- a listener is retired on one side exactly when its moved number is on the other
    have hi := hmem i
    rw [← Gap.atListener]
    by_cases h : i ∈ ls
    · simp [h, hi.2 h, Listener.shift]
    · have h' : g.atListener i ∉ ls' := fun h' => h (hi.1 h')
      simp [h, h']
  gap_retired := by rw [isActive_retireAll, hs.gap_retired, Bool.and_false]
  bridges := by rw [bridges_retireAll, bridges_retireAll]; exact hs.bridges
  handles := by rw [handles_retireAll, handles_retireAll]; exact hs.handles
  raws := by rw [raws_retireAll, raws_retireAll]; exact hs.raws
  records := by rw [records_retireAll, records_retireAll]; exact hs.records
  queues := by rw [queues_retireAll, queues_retireAll]; exact hs.queues
  deliveries := by rw [deliveries_retireAll, deliveries_retireAll]; exact hs.deliveries

/-- Closing both tables retires the same listeners, moved. -/
theorem closeTable (hs : Shadow g w w') : Shadow g w.closeTable w'.closeTable := by
  rw [closeTable_eq, closeTable_eq]
  refine (((hs.setTable hs.table.close).retireAll fun l => ?_).logEvent _ _)
  exact hs.table.mem_listeners l

theorem react (hs : Shadow g w w') (r : Reaction) : Shadow g (w.react r) (w'.react r) := by
  cases r with
  | cancel name =>
    simp only [World.react]
    rw [hs.lookup_handles]
    rcases w.handles.lookup name with _ | (s | ⟨s, q⟩)
    · exact hs
    · exact hs.cancel s
    · exact hs
  | drop name =>
    simp only [World.react]
    rw [hs.lookup_handles]
    rcases hl : w.handles.lookup name with _ | (s | ⟨s, q⟩)
    · exact hs
    · exact (hs.dropHandle name).2
    · exact hs
  | close => exact hs.closeTable

theorem reactions (hs : Shadow g w w') (rs : List Reaction) :
    Shadow g (rs.foldl World.react w) (rs.foldl World.react w') := by
  induction rs generalizing w w' with
  | nil => exact hs
  | cons r rest ih => exact ih (hs.react r)

/-! ### Deliveries -/

/-- Handing a payload to a sink and to its moved copy: the same answer. -/
theorem sinkPayload (hs : Shadow g w w') (p : Payload) (sink : Sink) :
    (w'.sinkPayload p (sink.shift g)).1 = (w.sinkPayload p sink).1 ∧
    Shadow g (w.sinkPayload p sink).2 (w'.sinkPayload p (sink.shift g)).2 := by
  cases sink with
  | record handle r rs => exact ⟨rfl, ((hs.recordPayload r p).deliverCall _).reactions rs⟩
  | queue q =>
    have hq' := hs.queueClosed q
    cases hq : w.queueClosed q with
    | true =>
      rw [hq] at hq'
      simp only [Sink.shift, World.sinkPayload, hq, hq', if_true, true_and]
      exact hs
    | false =>
      rw [hq] at hq'
      simp only [Sink.shift, World.sinkPayload, hq, hq', Bool.false_eq_true, if_false, true_and]
      exact hs.enqueue q p

theorem unwrap (hs : Shadow g w w') (c : Channel) (b : BridgeRef) (sink : Sink) (e : Envelope) :
    Shadow g (w.unwrap c b sink e) (w'.unwrap c b (sink.shift g) e) := by
  unfold World.unwrap
  split
  · exact (hs.bump b _).logEvent _ _
  · split
    · exact (hs.bump b _).logEvent _ _
    · next p _ =>
      obtain ⟨htaken, hsink⟩ := hs.sinkPayload p sink
      dsimp only
      rw [htaken]
      split
      · exact hsink.bump b _
      · exact hsink

/-- Running a listener's handler and its moved copy's. -/
theorem invoke (hs : Shadow g w w') (l : Nat) (e : Envelope) :
    Shadow g (w.invoke l e) (w'.invoke (g.atListener l) e) := by
  unfold World.invoke
  rw [hs.getElem?_listeners]
  rcases w.listeners[l]? with _ | ⟨active, (⟨c, b, sink⟩ | handle)⟩
  · exact hs
  · exact hs.unwrap c b sink e
  · exact hs.deliverCall _

/-- Delivering to moved listeners: the same number of calls, made alike. -/
theorem foldl_turn (hs : Shadow g w w') (e : Envelope) (targets : List Nat) (k : Nat) :
    ((targets.map g.atListener).foldl (turn e) (k, w')).1 = (targets.foldl (turn e) (k, w)).1 ∧
    Shadow g (targets.foldl (turn e) (k, w)).2 ((targets.map g.atListener).foldl (turn e) (k, w')).2 := by
  induction targets generalizing k w w' with
  | nil => exact ⟨rfl, hs⟩
  | cons l rest ih =>
    rw [List.map_cons, List.foldl_cons, List.foldl_cons]
    cases hact : w.isActive l with
    | false =>
      rw [turn_of_inactive e k hact, turn_of_inactive e k (by rw [hs.isActive, hact])]
      exact ih hs k
    | true =>
      rw [turn_of_active e k hact, turn_of_active e k (by rw [hs.isActive, hact])]
      exact ih (hs.invoke l e) (k + 1)

theorem deliverTo (hs : Shadow g w w') (targets : List Nat) (e : Envelope) :
    (w'.deliverTo (targets.map g.atListener) e).1 = (w.deliverTo targets e).1 ∧
    Shadow g (w.deliverTo targets e).2 (w'.deliverTo (targets.map g.atListener) e).2 := by
  rw [deliverTo_eq_foldl, deliverTo_eq_foldl]
  exact hs.foldl_turn e targets 0

/-- Pruning a channel in both tables: the live listeners are the moved ones. -/
theorem prune (hs : Shadow g w w') (c : Channel) :
    (w'.host.table.prune c w'.isActive).1 = (w.host.table.prune c w.isActive).1.map g.atListener ∧
    Registry.Shadow g (w.host.table.prune c w.isActive).2 (w'.host.table.prune c w'.isActive).2 :=
  hs.table.prune c hs.isActive hs.gap_retired

/-- Delivering an envelope through both tables: the same number of calls, made alike. -/
theorem deliverLocal (hs : Shadow g w w') (e : Envelope) :
    (w'.deliverLocal e).1 = (w.deliverLocal e).1 ∧
    Shadow g (w.deliverLocal e).2 (w'.deliverLocal e).2 := by
  obtain ⟨hlive, htable⟩ := hs.prune e.channel
  unfold World.deliverLocal
  dsimp only
  rw [hlive]
  exact ((hs.setTable htable).logEvent _ _).deliverTo _ e

theorem emitLocal (hs : Shadow g w w') (c : Channel) (payload : Json) :
    (w'.emitLocal c payload).1 = (w.emitLocal c payload).1 ∧
    Shadow g (w.emitLocal c payload).2 (w'.emitLocal c payload).2 := by
  obtain ⟨hid, htable⟩ := hs.table.nextEvent
  unfold World.emitLocal
  dsimp only
  rw [hid]
  exact (hs.setTable htable).deliverLocal _

theorem liveCount (hs : Shadow g w w') (c : Channel) :
    (w'.liveCount c).1 = (w.liveCount c).1 ∧ Shadow g (w.liveCount c).2 (w'.liveCount c).2 := by
  obtain ⟨hlive, htable⟩ := hs.prune c
  unfold World.liveCount
  dsimp only
  rw [hlive, List.length_map]
  exact ⟨rfl, hs.setTable htable⟩

/-! ### Registering a subscription -/

/-- Registering a subscription with a sink and with its moved copy: the moved outcome. -/
theorem subscribe (hs : Shadow g w w')
    (hlt : g.id ≠ none → w'.host.table.registrations.count.toNat < 2 ^ 64 - 1)
    (c : Channel) (b : BridgeRef) (sink : Sink) (abandon : Bool) :
    (w'.subscribe c b (sink.shift g) abandon).1 = (w.subscribe c b sink abandon).1.shift g ∧
    Shadow g (w.subscribe c b sink abandon).2 (w'.subscribe c b (sink.shift g) abandon).2 := by
  have hl : (w'.addListener (.typed c b (sink.shift g))).1 =
      g.atListener (w.addListener (.typed c b sink)).1 := (hs.addListener (.typed c b sink)).1
  have hadd : Shadow g (w.addListener (.typed c b sink)).2
      (w'.addListener (.typed c b (sink.shift g))).2 := (hs.addListener (.typed c b sink)).2
  unfold World.subscribe
  rcases ha₀ : w.addListener (.typed c b sink) with ⟨l, v⟩
  rcases ha₁ : w'.addListener (.typed c b (sink.shift g)) with ⟨l', v'⟩
  rw [ha₀, ha₁] at hl hadd
  dsimp only at hl hadd ⊢
  subst hl
  have hlt' : g.id ≠ none → v'.host.table.registrations.count.toNat < 2 ^ 64 - 1 := by
    have hhost : v'.host = w'.host := by rw [← host_addListener w' (.typed c b (sink.shift g)), ha₁]
    rw [hhost]
    exact hlt
  obtain ⟨hr, hreg⟩ := hadd.hostRegister hlt' c l
  rcases h₀ : v.hostRegister c l with ⟨_ | id, u⟩ <;>
    rcases h₁ : v'.hostRegister c (g.atListener l) with ⟨_ | id', u'⟩ <;>
    rw [h₀, h₁] at hr hreg <;> simp only [Except.map] at hr <;> cases hr
  · -- refused alike: the listener is retired on both sides
    exact ⟨rfl, ((hreg.logEvent _ _).retire _).logEvent _ _⟩
  · -- stored alike: given up alike, or acknowledged and counted alike
    dsimp only
    rw [hreg.host.acknowledgesLater_eq]
    split
    · exact ⟨rfl, (hreg.retire _).logEvent _ _⟩
    · exact ⟨rfl, ((hreg.setHost hreg.host.acknowledge).bump b _).logEvent _ _⟩

/-! ### The dispatcher -/

theorem deliverAll (hs : Shadow g w w') (es : List Envelope) :
    Shadow g (w.deliverAll es) (w'.deliverAll es) := by
  induction es generalizing w w' with
  | nil => exact hs
  | cons e rest ih => exact ih (hs.deliverLocal e).2

theorem runDispatcher (hs : Shadow g w w') (d : Dispatcher) :
    (w'.runDispatcher d).2 = (w.runDispatcher d).2 ∧
    Shadow g (w.runDispatcher d).1 (w'.runDispatcher d).1 := by
  refine ⟨rfl, ?_⟩
  unfold World.runDispatcher
  dsimp only
  split
  · exact hs.deliverAll _
  · exact (hs.logEvent _ _).deliverAll _

theorem envelopeOf (hs : Shadow g w w') (o : Outgoing) :
    (w'.envelopeOf o).1 = (w.envelopeOf o).1 ∧ Shadow g (w.envelopeOf o).2 (w'.envelopeOf o).2 := by
  cases o with
  | payload c payload =>
    obtain ⟨hid, htable⟩ := hs.table.nextEvent
    unfold World.envelopeOf
    dsimp only
    rw [hid]
    exact ⟨rfl, hs.setTable htable⟩
  | envelope e => exact ⟨rfl, hs⟩

/-- Sending one item from both worlds: the same answer and the same dispatcher. -/
theorem send (hs : Shadow g w w') (d : Dispatcher) (o : Outgoing) :
    (w'.send d o).1 = (w.send d o).1 ∧ (w'.send d o).2.2 = (w.send d o).2.2 ∧
    Shadow g (w.send d o).2.1 (w'.send d o).2.1 := by
  obtain ⟨he, henv⟩ := hs.envelopeOf o
  unfold World.send
  dsimp only
  rw [he]
  split
  · split
    · exact ⟨rfl, rfl, henv⟩
    · obtain ⟨hd, hrun⟩ := henv.runDispatcher d
      exact ⟨rfl, by rw [hd], hrun⟩
  · exact ⟨rfl, rfl, henv⟩

theorem finish (hs : Shadow g w w') (d : Dispatcher) : Shadow g (w.finish d) (w'.finish d) := by
  unfold World.finish
  split
  · obtain ⟨hd, hrun⟩ := hs.runDispatcher d
    dsimp only
    rw [hd]
    exact hrun.logEvent _ _
  · exact hs

/-- A fold over the sends of a dispatch that keeps related worlds related, with the same answers
and the same dispatcher, does so to its end and through the wait for the task. -/
theorem foldl_sends {σ α : Type} {F : σ × World × Dispatcher → α → σ × World × Dispatcher}
    (hF : ∀ (out : σ) (v v' : World) (d : Dispatcher) (item : α), Shadow g v v' →
      (F (out, v', d) item).1 = (F (out, v, d) item).1 ∧
      (F (out, v', d) item).2.2 = (F (out, v, d) item).2.2 ∧
      Shadow g (F (out, v, d) item).2.1 (F (out, v', d) item).2.1)
    (items : List α) (out : σ) (d : Dispatcher) (hs : Shadow g w w') :
    (items.foldl F (out, w', d)).1 = (items.foldl F (out, w, d)).1 ∧
    Shadow g ((items.foldl F (out, w, d)).2.1.finish (items.foldl F (out, w, d)).2.2)
      ((items.foldl F (out, w', d)).2.1.finish (items.foldl F (out, w', d)).2.2) := by
  induction items generalizing out w w' d with
  | nil => exact ⟨rfl, hs.finish d⟩
  | cons item rest ih =>
    obtain ⟨hout, hd, hv⟩ := hF out w w' d item hs
    have hacc : F (out, w', d) item =
        ((F (out, w, d) item).1, (F (out, w', d) item).2.1, (F (out, w, d) item).2.2) := by
      rw [← hout, ← hd]
    rw [List.foldl_cons, List.foldl_cons, hacc]
    exact ih _ _ hv

/-- Running a dispatcher from both worlds: the same answers. -/
theorem dispatch {ε : Type} (hs : Shadow g w w') (capacity : Nat) (abort : Bool)
    (items : List (Except ε Outgoing)) :
    (w'.dispatch capacity abort items).1 = (w.dispatch capacity abort items).1 ∧
    Shadow g (w.dispatch capacity abort items).2 (w'.dispatch capacity abort items).2 := by
  unfold World.dispatch
  refine foldl_sends (fun out v v' d item hv => ?_) items [] _ hs
  cases item with
  | error x => exact ⟨rfl, rfl, hv⟩
  | ok o =>
    -- a send answers and moves the dispatcher alike from both worlds
    obtain ⟨hr, hd, hsend⟩ := hv.send d o
    dsimp only
    rcases h₀ : v.send d o with ⟨_ | _, u, d₀⟩ <;> rcases h₁ : v'.send d o with ⟨_ | _, u', d₁⟩ <;>
      rw [h₀, h₁] at hr hd hsend <;> cases hr <;> cases hd
    · exact ⟨rfl, rfl, hsend⟩
    · exact ⟨rfl, rfl, hsend⟩

end Shadow

end World

end ChannelBridge
