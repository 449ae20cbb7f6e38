import ChannelBridge.Proofs.Session.Cancellation
import ChannelBridge.Proofs.Session.Runs

/-! # What the marks of a step account for

A step that registers nothing is a run of moves, and its marks account for all it does to the
counters and the queues:

* each counter of a named bridge grows by the marks of that bridge (`Mark.count`): one
  cancellation per `cancelled` mark, one delivered or malformed payload per run of its handlers;
* each stream queue grows by the payloads its listener decoded in its runs and shrinks by what the
  reads took, in order (`Mark.decodedBy`, `Mark.takenFrom`);
* each `cancelled` mark is about a handle of the world the step started from, whose listener was
  still active then and is retired after it, and no listener is cancelled twice.

`Ledger w ms w'` says all of this of a run from `w` to `w'` with marks `ms`. It composes
(`Ledger.trans`), so each operation gets one lemma and the loops of the model (reactions, the
listeners of a delivery, the envelopes of a dispatch) get one induction each.

A run of a handler needs one more fact of the world, beside its wiring: an active listener that
queues finds its queue open (`StreamsOpen`), so that a payload it takes is queued and counted.
-/

namespace ChannelBridge

namespace World

variable {w w' : World}

/-- The items of stream queue `q` not read yet; none for a queue that was not made. -/
def itemsOf (w : World) (q : Nat) : List Payload := ((w.queues[q]?).map (·.items)).getD []

theorem itemsOf_congr (h : w'.queues = w.queues) : w'.itemsOf = w.itemsOf := by
  funext q
  simp [itemsOf, h]

@[simp] theorem itemsOf_closeQueue (w : World) (q q' : Nat) :
    (w.closeQueue q).itemsOf q' = w.itemsOf q' := by
  simp only [itemsOf, closeQueue, Array.getElem?_modify]
  split <;> cases w.queues[q']? <;> rfl

/-- Appending to a queue that was made adds the payload at its end. -/
theorem itemsOf_enqueue (w : World) {q : Nat} (hq : q < w.queues.size) (p : Payload) (q' : Nat) :
    (w.enqueue q p).itemsOf q' = if q' = q then w.itemsOf q' ++ [p] else w.itemsOf q' := by
  simp only [itemsOf, enqueue, Array.getElem?_modify]
  by_cases h : q' = q
  · subst h
    simp [Array.getElem?_eq_getElem hq]
  · simp [Ne.symm h, h]

@[simp] theorem itemsOf_logEvent (w : World) (x : LogEvent) : (w.logEvent x).itemsOf = w.itemsOf :=
  rfl

@[simp] theorem itemsOf_deliverCall (w : World) (d : Delivery) :
    (w.deliverCall d).itemsOf = w.itemsOf := rfl

@[simp] theorem itemsOf_bump (w : World) (b : BridgeRef) (f : BridgeStats → BridgeStats) :
    (w.bump b f).itemsOf = w.itemsOf := itemsOf_congr (queues_bump w b f)

/-- A read takes the first item of the queue, if there is one. -/
theorem fst_dequeue (w : World) (q : Nat) : (w.dequeue q).1 = (w.itemsOf q).head? := by
  unfold dequeue itemsOf
  split
  · next p hp => cases hx : w.queues[q]? <;> simp_all
  · next hp => cases hx : w.queues[q]? <;> simp_all

theorem itemsOf_dequeue (w : World) (q q' : Nat) :
    (w.dequeue q).2.itemsOf q' = if q' = q then (w.itemsOf q').tail else w.itemsOf q' := by
  unfold dequeue
  split
  · next p hp =>
    simp only [itemsOf, Array.getElem?_modify]
    by_cases h : q' = q
    · subst h
      cases w.queues[q']? <;> simp
    · simp [Ne.symm h, h]
  · next hp =>
    by_cases h : q' = q
    · subst h
      rw [if_pos rfl]
      unfold itemsOf
      cases hx : w.queues[q']? <;> simp_all
    · rw [if_neg h]

/-! ## Open streams -/

/-- Every active listener that queues finds its queue open. -/
structure StreamsOpen (w : World) : Prop where
  open_of_active : ∀ {l c b q}, w.handlerOf l = some (.typed c b (.queue q)) →
    w.isActive l = true → w.queueClosed q = false

namespace StreamsOpen

/-- A change that keeps every handler, turns no flag on and closes no queue keeps streams open. -/
theorem frame (ho : w.StreamsOpen) (hg : Grows w w') (hsize : w'.listeners.size = w.listeners.size)
    (hclosed : ∀ q, w'.queueClosed q = w.queueClosed q) : w'.StreamsOpen where
  open_of_active hl hact := by
    rw [hclosed]
    exact ho.open_of_active (by rwa [hg.handlerOf_eq_of_size hsize] at hl)
      (hg.active_of_size hsize hact)

/-- Cancelling a handle keeps streams open: a stream closes its queue, and the only listener that
queues there is the stream's own, which the cancellation retires. -/
theorem cancelHandle (ho : w.StreamsOpen) (hw : w.Wired) {n : String} {h : Handle}
    (hm : (n, h) ∈ w.handles) {w₀ : World} (hl₀ : w₀.listeners = w.listeners)
    (hq₀ : w₀.queues = w.queues) : (w₀.cancelHandle h).StreamsOpen := by
  have hg : Grows w (w₀.cancelHandle h) := (Grows.of_listeners_eq hl₀).trans (Grows.cancelHandle w₀ h)
  have hsize : (w₀.cancelHandle h).listeners.size = w.listeners.size := by
    rw [size_cancelHandle, hl₀]
  refine ⟨fun {l c b q} hl hact => ?_⟩
  rw [hg.handlerOf_eq_of_size hsize] at hl
  have hopen := ho.open_of_active hl (hg.active_of_size hsize hact)
  cases h with
  | callback s =>
    show (w₀.cancel s).queueClosed q = false
    rwa [queueClosed_congr ((queues_cancel w₀ s).trans hq₀)]
  | stream s q₀ =>
    show ((w₀.cancel s).closeQueue q₀).queueClosed q = false
    rw [queueClosed_closeQueue, queueClosed_congr ((queues_cancel w₀ s).trans hq₀), hopen]
    by_cases hq : q = q₀
    · -- the listener queues on the stream's queue, so it is the stream's listener
      subst hq
      have hsame := hw.queue_owner hl (hw.stream_wired hm)
      have hoff : ((w₀.cancel s).closeQueue q).isActive l = false := by
        rw [isActive_congr (listeners_closeQueue _ q), hsame, isActive_cancel_self]
      change ((w₀.cancel s).closeQueue q).isActive l = true at hact
      rw [hoff] at hact
      cases hact
    · simp [hq]

/-- Every move keeps streams open. -/
theorem move (ho : w.StreamsOpen) (hw : w.Wired) (hmove : Move w w') : w'.StreamsOpen := by
  have hg := Grows.move hmove
  have hsize := size_move hmove
  cases hmove with
  | enqueue q p => exact ho.frame hg hsize (queueClosed_enqueue w q p)
  | dequeue q => exact ho.frame hg hsize (dequeue_frame w q).2.2.2.2
  | cancelHandle hh => exact ho.cancelHandle hw (mem_of_lookup_eq_some hh) rfl rfl
  | dropHandle name =>
    unfold dropHandle
    split
    · next h hh => exact ho.cancelHandle hw (mem_of_lookup_eq_some hh) rfl rfl
    · exact ho
  | closeTable =>
    have hqueues : w.closeTable.queues = w.queues := by simp [closeTable_eq, setTable]
    exact ho.frame hg hsize fun q => by rw [queueClosed_congr hqueues]
  | bump b f => exact ho.frame hg hsize fun q => by rw [queueClosed_congr (queues_bump w b f)]
  | _ => exact ho.frame hg hsize fun _ => rfl

/-- Every run of moves keeps streams open. -/
theorem moves (ho : w.StreamsOpen) (hw : w.Wired) (hrun : Moves w w') : w'.StreamsOpen := by
  induction hrun with
  | refl => exact ho
  | tail hrun₁ hstep ih => exact ih.move (hw.moves hrun₁) hstep

end StreamsOpen

/-! ## What runs of moves keep -/

/-- No move binds a name: the handles after a move were there before it. -/
theorem mem_handles_of_move (hmove : Move w w') {n : String} {h : Handle}
    (hm : (n, h) ∈ w'.handles) : (n, h) ∈ w.handles := by
  cases hmove with
  | dequeue q => rwa [(dequeue_frame w q).2.1] at hm
  | cancelHandle hh => rwa [handles_cancelHandle] at hm
  | dropHandle name =>
    unfold dropHandle at hm
    split at hm
    · rw [handles_cancelHandle] at hm
      exact (List.mem_filter.1 hm).1
    · exact hm
  | closeTable => simpa [closeTable_eq, setTable] using hm
  | bump b f => rwa [handles_bump] at hm
  | _ => exact hm

theorem mem_handles_of_moves (hrun : Moves w w') {n : String} {h : Handle}
    (hm : (n, h) ∈ w'.handles) : (n, h) ∈ w.handles := by
  induction hrun with
  | refl => exact hm
  | tail _ hstep ih => exact ih (mem_handles_of_move hstep hm)

@[simp] theorem bridges_retireAll (w : World) (ls : List Nat) :
    (ls.foldl retire w).bridges = w.bridges := by
  induction ls generalizing w with
  | nil => rfl
  | cons l rest ih => rw [List.foldl_cons, ih]; rfl

/-- Closing the table counts nothing. -/
theorem stats_closeTable (w : World) : w.closeTable.stats = w.stats := by
  rw [closeTable_eq]
  funext name
  exact congrArg (fun bs => (bs.lookup name).getD .zero) (bridges_retireAll _ _)

/-! ## The ledger of a run of moves -/

/-- What a run of moves from `w` to `w'` did, told by its marks `ms`. -/
structure Ledger (w : World) (ms : List Mark) (w' : World) : Prop where
  /-- The run is made of moves. -/
  moves : Moves w w'
  /-- Each named bridge's counters grow by what the marks add to them. -/
  stats : ∀ name, w'.stats name = w.stats name + Mark.count name ms
  /-- A stream listener's queue grows by what it decoded and loses what was read, in order. -/
  items : ∀ {l c b q}, w.handlerOf l = some (.typed c b (.queue q)) →
    ms.filterMap (Mark.takenFrom q) ++ w'.itemsOf q =
      w.itemsOf q ++ ms.filterMap (Mark.decodedBy l c)
  /-- A cancellation is of a handle of `w` whose listener was active in `w`. -/
  cancels : ∀ {s}, .cancelled s ∈ ms →
    w.isActive s.listener = true ∧ ∃ n h, (n, h) ∈ w.handles ∧ h.subscription = s
  /-- A cancelled listener is retired at the end. -/
  retired : ∀ {s}, .cancelled s ∈ ms → w'.isActive s.listener = false
  /-- No listener is cancelled twice. -/
  cancels_nodup : ((ms.filterMap Mark.cancelledSub).map (·.listener)).Nodup
  /-- A read is of a queue that was made. -/
  took_made : ∀ {q p}, .took q p ∈ ms → q < w.queues.size
  /-- Nothing is registered. -/
  no_subscribed : ∀ s, .subscribed s ∉ ms

namespace Ledger

variable {w₀ w₁ w₂ : World} {ms₁ ms₂ : List Mark}

/-- Two runs one after the other: the marks of the first, then those of the second. -/
theorem trans (h₁ : Ledger w₀ ms₁ w₁) (h₂ : Ledger w₁ ms₂ w₂) : Ledger w₀ (ms₁ ++ ms₂) w₂ where
  moves := h₁.moves.trans h₂.moves
  stats name := by rw [h₂.stats, h₁.stats, Mark.count_append, BridgeStats.add_assoc]
  items {l c b q} hl := by
    have hl₁ : w₁.handlerOf l = some (.typed c b (.queue q)) :=
      ((Grows.moves h₁.moves).handlerOf_eq (lt_size_of_handlerOf hl)).trans hl
    rw [List.filterMap_append, List.filterMap_append, List.append_assoc, h₂.items hl₁,
      ← List.append_assoc, h₁.items hl, List.append_assoc]
  cancels hm := by
    rcases List.mem_append.1 hm with hm | hm
    · exact h₁.cancels hm
    · -- a handle active in the middle was there, and active, at the start
      obtain ⟨hact, n, h, hh, hs⟩ := h₂.cancels hm
      have hsize := (size_moves h₁.moves).1
      refine ⟨(Grows.moves h₁.moves).active_of_size hsize hact, n, h, ?_, hs⟩
      exact mem_handles_of_moves h₁.moves hh
  retired hm := by
    rcases List.mem_append.1 hm with hm | hm
    · have hlt := lt_size_of_isActive (h₁.cancels hm).1
      rw [← (size_moves h₁.moves).1] at hlt
      exact (Grows.moves h₂.moves).inactive hlt (h₁.retired hm)
    · exact h₂.retired hm
  cancels_nodup := by
    rw [List.filterMap_append, List.map_append, List.nodup_append]
    refine ⟨h₁.cancels_nodup, h₂.cancels_nodup, ?_⟩
    -- the first run retires what it cancels; the second cancels only listeners still active
    simp only [List.mem_map, List.mem_filterMap]
    rintro _ ⟨s, ⟨m, hm, hs⟩, rfl⟩ _ ⟨s', ⟨m', hm', hs'⟩, rfl⟩ heq
    cases m <;> cases hs
    cases m' <;> cases hs'
    have hoff := h₁.retired hm
    rw [heq, (h₂.cancels hm').1] at hoff
    cases hoff
  took_made hm := by
    rcases List.mem_append.1 hm with hm | hm
    · exact h₁.took_made hm
    · exact (size_moves h₁.moves).2 ▸ h₂.took_made hm
  no_subscribed s hm := by
    rcases List.mem_append.1 hm with hm | hm
    · exact h₁.no_subscribed s hm
    · exact h₂.no_subscribed s hm

/-- A run that counts nothing, queues nothing and makes no mark. -/
theorem quiet (hrun : Moves w w') (hstats : ∀ name, w'.stats name = w.stats name)
    (hitems : w'.itemsOf = w.itemsOf) : Ledger w [] w' where
  moves := hrun
  stats name := by rw [hstats, Mark.count_nil, BridgeStats.add_zero]
  items _ := by rw [hitems]; simp
  cancels hm := by cases hm
  retired hm := by cases hm
  cancels_nodup := List.nodup_nil
  took_made hm := by cases hm
  no_subscribed _ hm := by cases hm

theorem refl (w : World) : Ledger w [] w := quiet .refl (fun _ => rfl) rfl

/-- A run whose marks are runs of handlers only. -/
theorem of_runs {ms : List Mark} (hrun : Moves w w')
    (hstats : ∀ name, w'.stats name = w.stats name + Mark.count name ms)
    (hitems : ∀ {l c b q}, w.handlerOf l = some (.typed c b (.queue q)) →
      w'.itemsOf q = w.itemsOf q ++ ms.filterMap (Mark.decodedBy l c))
    (hruns : ∀ m ∈ ms, ∃ l h e, m = .ran l h e) : Ledger w ms w' where
  moves := hrun
  stats := hstats
  items {l c b q} hl := by
    have htaken : ms.filterMap (Mark.takenFrom q) = [] := by
      refine List.filterMap_eq_nil_iff.2 fun m hm => ?_
      obtain ⟨l, h, e, rfl⟩ := hruns m hm
      rfl
    rw [htaken, List.nil_append, hitems hl]
  cancels hm := by obtain ⟨_, _, _, h⟩ := hruns _ hm; cases h
  retired hm := by obtain ⟨_, _, _, h⟩ := hruns _ hm; cases h
  cancels_nodup := by
    have hnone : ms.filterMap Mark.cancelledSub = [] := by
      refine List.filterMap_eq_nil_iff.2 fun m hm => ?_
      obtain ⟨l, h, e, rfl⟩ := hruns m hm
      rfl
    rw [hnone]
    exact List.nodup_nil
  took_made hm := by obtain ⟨_, _, _, h⟩ := hruns _ hm; cases h
  no_subscribed _ hm := by obtain ⟨_, _, _, h⟩ := hruns _ hm; cases h

/-! ## Cancelling -/

/-- A cancellation counts on its bridge what its marks say. -/
theorem stats_cancel_eq (v : World) (s : Subscription) (name : String) :
    (v.cancel s).stats name = v.stats name + Mark.count name (v.cancelMarks s) := by
  rw [stats_cancel]
  unfold cancelMarks
  by_cases hact : v.isActive s.listener = true
  · by_cases hb : s.bridge = .named name
    · simp only [hact, hb, and_self, if_true]
      simp [Mark.count, Mark.registers, Mark.cancels, Mark.delivers, Mark.rejects, hb,
        BridgeStats.add_def]
    · simp only [hact, hb, and_false, if_false, if_true]
      simp [Mark.count, Mark.registers, Mark.cancels, Mark.delivers, Mark.rejects, hb,
        BridgeStats.add_def]
  · rw [if_neg fun h => hact h.1, if_neg hact, Mark.count_nil, BridgeStats.add_zero]

/-- Cancelling a handle, at a world `v` with the flags, counters and queues of `w` whose handle it
is. -/
theorem ofCancel {v : World} {n : String} {h : Handle} (hm : (n, h) ∈ w.handles)
    (hrun : Moves w (v.cancelHandle h)) (hl : v.listeners = w.listeners)
    (hstats : v.stats = w.stats) (hq : v.queues = w.queues) :
    Ledger w (v.cancelMarks h.subscription) (v.cancelHandle h) := by
  have hstats' : ∀ name, (v.cancelHandle h).stats name =
      v.stats name + Mark.count name (v.cancelMarks h.subscription) := by
    intro name
    cases h with
    | callback s => exact stats_cancel_eq v s name
    | stream s q => exact stats_cancel_eq v s name
  have hitems : (v.cancelHandle h).itemsOf = w.itemsOf := by
    funext q'
    cases h with
    | callback s => rw [cancelHandle, itemsOf_congr ((queues_cancel v s).trans hq)]
    | stream s q => rw [cancelHandle, itemsOf_closeQueue, itemsOf_congr ((queues_cancel v s).trans hq)]
  -- the marks are at most the one cancellation, of the handle's subscription
  have hnone : ∀ {α : Type} (f : Mark → Option α), (∀ s, f (.cancelled s) = none) →
      (v.cancelMarks h.subscription).filterMap f = [] := fun f hf =>
    List.filterMap_eq_nil_iff.2 fun m hm' => by rw [(mem_cancelMarks hm').1, hf]
  refine ⟨hrun, fun name => by rw [hstats', hstats], fun _ => ?_, fun hm' => ?_, fun hm' => ?_,
    ?_, fun hm' => ?_, fun s hm' => ?_⟩
  · rw [hnone _ fun _ => rfl, hnone _ fun _ => rfl, hitems]
    simp
  · obtain ⟨he, hact⟩ := mem_cancelMarks hm'
    cases he
    exact ⟨by rwa [isActive_congr hl] at hact, n, h, hm, rfl⟩
  · obtain ⟨he, -⟩ := mem_cancelMarks hm'
    cases he
    cases h with
    | callback s => exact isActive_cancel_self v s
    | stream s q =>
      rw [cancelHandle, isActive_congr (listeners_closeQueue _ q)]
      exact isActive_cancel_self v s
  · unfold cancelMarks
    split <;> simp [Mark.cancelledSub]
  · cases (mem_cancelMarks hm').1
  · cases (mem_cancelMarks hm').1

/-- Cancelling the handle a name is bound to: one mark when its listener was still active. -/
theorem cancelHandle {name : String} {h : Handle} (hh : w.handles.lookup name = some h) :
    Ledger w (w.cancelMarks h.subscription) (w.cancelHandle h) :=
  ofCancel (mem_of_lookup_eq_some hh) (.single (.cancelHandle w hh)) rfl rfl rfl

/-- Dropping a handle cancels it. -/
theorem dropHandle (w : World) (name : String) :
    Ledger w (w.dropMarks name) (w.dropHandle name).2 := by
  have hrun : Moves w (w.dropHandle name).2 := .single (.dropHandle w name)
  unfold dropMarks
  unfold World.dropHandle at hrun ⊢
  cases hh : w.handles.lookup name with
  | none => exact refl w
  | some h =>
    simp only [hh] at hrun ⊢
    exact ofCancel (mem_of_lookup_eq_some hh) hrun rfl rfl rfl

/-- Closing the table retires listeners, counts nothing and makes no mark. -/
theorem closeTable (w : World) : Ledger w [] w.closeTable := by
  have hqueues : w.closeTable.queues = w.queues := by simp [closeTable_eq, setTable]
  exact quiet (.single (.closeTable w)) (fun name => by rw [stats_closeTable])
    (itemsOf_congr hqueues)

/-! ## Reactions -/

theorem react (w : World) (r : Reaction) : Ledger w (w.reactMarks r) (w.react r) := by
  cases r with
  | cancel name =>
    cases hh : w.handles.lookup name with
    | none => simp only [reactMarks, World.react, hh]; exact refl w
    | some h =>
      cases h with
      | callback s =>
        simp only [reactMarks, World.react, hh]
        exact cancelHandle hh
      | stream s q => simp only [reactMarks, World.react, hh]; exact refl w
  | drop name =>
    cases hh : w.handles.lookup name with
    | none => simp only [reactMarks, World.react, hh]; exact refl w
    | some h =>
      cases h with
      | callback s =>
        simp only [reactMarks, World.react, hh]
        exact dropHandle w name
      | stream s q => simp only [reactMarks, World.react, hh]; exact refl w
  | close =>
    simp only [reactMarks, World.react]
    exact closeTable w

theorem reactions (w : World) (rs : List Reaction) :
    Ledger w (w.reactionsMarks rs) (rs.foldl World.react w) := by
  induction rs generalizing w with
  | nil => exact refl w
  | cons r rest ih => exact (react w r).trans (ih _)

/-! ## The run of a handler -/

theorem stats_bump (v : World) (b : BridgeRef) (f : BridgeStats → BridgeStats) (name : String) :
    (v.bump b f).stats name = if b = .named name then f (v.stats name) else v.stats name := by
  split
  · next hb => rw [hb, stats_bump_named]
  · next hb => exact stats_bump_of_ne v b f hb

/-- A run of a bridge handler counts on its bridge: delivered when it takes the envelope,
malformed when it drops it. -/
theorem count_ran (name : String) (l : Nat) (c : Channel) (b : BridgeRef) (sink : Sink)
    (e : Envelope) : Mark.count name [.ran l (.typed c b sink) e] =
      if b = .named name then (if e.fits c then ⟨0, 0, 1, 0⟩ else ⟨0, 0, 0, 1⟩) else .zero := by
  by_cases hb : b = .named name <;> by_cases hf : e.fits c = true <;>
    simp [Mark.count, Mark.registers, Mark.cancels, Mark.delivers, Mark.rejects, hb, hf,
      BridgeStats.zero]

/-- Counting one run on the handler's bridge is what the run's mark adds. -/
theorem stats_bump_ran (v : World) {l : Nat} {c : Channel} {b : BridgeRef} {sink : Sink}
    {e : Envelope} (name : String) {f : BridgeStats → BridgeStats}
    (hf : ∀ st, f st = st + if e.fits c then ⟨0, 0, 1, 0⟩ else ⟨0, 0, 0, 1⟩) :
    (v.bump b f).stats name = v.stats name + Mark.count name [.ran l (.typed c b sink) e] := by
  rw [stats_bump, count_ran]
  split
  · exact hf _
  · exact (BridgeStats.add_zero _).symm

/-- A run decodes nothing for another listener. -/
theorem decodedBy_ran_of_ne {l l' : Nat} (c' : Channel) (h : Handler) (e : Envelope)
    (hne : l ≠ l') : Mark.decodedBy l' c' (.ran l h e) = none := by
  simp [Mark.decodedBy, hne]

/-- A run that drops its envelope decodes nothing. -/
theorem decodedBy_ran_of_drop {l : Nat} {c : Channel} (h : Handler) {e : Envelope}
    (hfit : e.fits c = false) : Mark.decodedBy l c (.ran l h e) = none := by
  simp only [Mark.decodedBy, true_and]
  split
  · next hc =>
    cases hd : Payload.decode c e.payload with
    | error err => rfl
    | ok p => simp [Envelope.fits, Except.toOption, hc, hd] at hfit
  · rfl

/-- A handler that drops the envelope counts it as malformed and queues nothing. -/
theorem dropped {l : Nat} {c : Channel} {b : BridgeRef} {sink : Sink} {e : Envelope}
    (hh : w.handlerOf l = some (.typed c b sink)) (hfit : e.fits c = false) (x : LogEvent) :
    Ledger w [.ran l (.typed c b sink) e]
      ((w.bump b fun st => { st with malformed := st.malformed + 1 }).logEvent x) := by
  refine of_runs ((Relation.ReflTransGen.single (.bump _ _ _)).tail (.logEvent _ _))
    (fun name => stats_bump_ran w name fun st => by
      simp [hfit, BridgeStats.add_def]) (fun {l' c' b' q} hl => ?_)
    (fun m hm => ⟨_, _, _, List.mem_singleton.1 hm⟩)
  have hnone : Mark.decodedBy l' c' (.ran l (.typed c b sink) e) = none := by
    by_cases he : l = l'
    · -- the listener's own queue: its channel is the handler's, and the envelope is dropped
      subst he
      rw [hh] at hl
      cases hl
      exact decodedBy_ran_of_drop _ hfit
    · exact decodedBy_ran_of_ne c' _ e he
  simp [hnone]

/-- A recording callback that took the envelope counts it as delivered; its queue is no
stream's. -/
theorem recorded {l : Nat} {c : Channel} {b : BridgeRef} {handle : String} {r : Nat}
    {rs : List Reaction} {e : Envelope} (hh : w.handlerOf l = some (.typed c b (.record handle r rs)))
    (hfit : e.fits c = true) :
    Ledger w [.ran l (.typed c b (.record handle r rs)) e]
      (w.bump b fun st => { st with delivered := st.delivered + 1 }) := by
  refine of_runs (.single (.bump _ _ _)) (fun name => stats_bump_ran w name fun st => by
    simp [hfit, BridgeStats.add_def]) (fun {l' c' b' q} hl => ?_) (fun m hm => ⟨_, _, _, List.mem_singleton.1 hm⟩)
  -- a recording callback's listener is no stream's
  have hne : l ≠ l' := by
    rintro rfl
    rw [hh] at hl
    cases hl
  simp [decodedBy_ran_of_ne c' _ e hne]

/-- A stream handler that took the envelope queues the payload on its own queue and counts it as
delivered. -/
theorem queued (hw : w.Wired) {l : Nat} {c : Channel} {b : BridgeRef} {q : Nat} {e : Envelope}
    {p : Payload} (hh : w.handlerOf l = some (.typed c b (.queue q))) (hopen : w.queueClosed q = false)
    (hc : e.channel = c) (hd : Payload.decode c e.payload = .ok p) :
    Ledger w [.ran l (.typed c b (.queue q)) e]
      ((w.enqueue q p).bump b fun st => { st with delivered := st.delivered + 1 }) := by
  have hfit : e.fits c = true := by simp [Envelope.fits, Except.toOption, hc, hd]
  have hq := lt_size_of_queueClosed hopen
  refine of_runs ((Relation.ReflTransGen.single (.enqueue _ _ _)).tail (.bump _ _ _))
    (fun name => stats_bump_ran _ name fun st => by simp [hfit, BridgeStats.add_def]) (fun {l' c' b' q'} hl => ?_)
    (fun m hm => ⟨_, _, _, List.mem_singleton.1 hm⟩)
  rw [itemsOf_bump, itemsOf_enqueue w hq]
  by_cases he : l' = l
  · -- the stream's own queue gets the payload
    subst he
    rw [hh] at hl
    cases hl
    simp [Mark.decodedBy, Except.toOption, hc, hd]
  · -- another stream reads another queue
    have hq' : q' ≠ q := fun hqq => he (hw.queue_owner hl (hqq ▸ hh))
    simp [hq', decodedBy_ran_of_ne c' _ e (Ne.symm he)]

/-- The handler of a bridge subscription, run by an active listener: it records or queues the
payload when it takes the envelope, and counts it either way. -/
theorem unwrap (hw : w.Wired) (ho : w.StreamsOpen) {l : Nat} {c : Channel} {b : BridgeRef}
    {sink : Sink} (hh : w.handlerOf l = some (.typed c b sink)) (hact : w.isActive l = true)
    (e : Envelope) :
    Ledger w (w.unwrapMarks c sink e ++ [.ran l (.typed c b sink) e]) (w.unwrap c b sink e) := by
  unfold unwrapMarks World.unwrap
  by_cases hc : e.channel = c
  · rw [if_neg (not_not.2 hc), if_neg (not_not.2 hc)]
    cases hd : Payload.decode c e.payload with
    | error err => exact dropped hh (by simp [Envelope.fits, Except.toOption, hd]) _
    | ok p =>
      dsimp only
      cases sink with
      | record handle r rs =>
        -- the payload is recorded and reported, the reactions run, and the run is counted
        have hfit : e.fits c = true := by simp [Envelope.fits, Except.toOption, hc, hd]
        have hrecord : Ledger w [] ((w.recordPayload r p).deliverCall (.payload handle p)) :=
          quiet ((Relation.ReflTransGen.single (.recordPayload _ _ _)).tail (.deliverCall _ _))
            (fun _ => rfl) rfl
        have hreact := reactions ((w.recordPayload r p).deliverCall (.payload handle p)) rs
        have hh₂ := ((Grows.moves (hrecord.trans hreact).moves).handlerOf_eq
          (lt_size_of_handlerOf hh)).trans hh
        exact hrecord.trans (hreact.trans (recorded hh₂ hfit))
      | queue q =>
        -- the listener is active, so its queue is open
        have hopen := ho.open_of_active hh hact
        simp only [sinkPayload, hopen]
        exact queued hw hh hopen hc hd
  · rw [if_pos hc, if_pos hc]
    exact dropped hh (by simp [Envelope.fits, Except.toOption, hc]) _

/-- A call of an active listener: the reactions of its handler, then its run. -/
theorem invoke (hw : w.Wired) (ho : w.StreamsOpen) {l : Nat} (hact : w.isActive l = true)
    (e : Envelope) : Ledger w (w.invokeMarks l e) (w.invoke l e) := by
  unfold invokeMarks World.invoke
  cases hx : w.listeners[l]? with
  | none => exact refl w
  | some x =>
    obtain ⟨a, handler⟩ := x
    have hh : w.handlerOf l = some handler := by simp [handlerOf, hx]
    cases handler with
    | typed c b sink => exact unwrap hw ho hh hact e
    | raw handle =>
      -- a raw listener reports the envelope and counts on no bridge
      refine of_runs (.single (.deliverCall _ _)) (fun name => ?_) (fun {l' c' b' q} hl => ?_)
        (fun m hm => ⟨_, _, _, List.mem_singleton.1 hm⟩)
      · have hzero : Mark.count name [.ran l (.raw handle) e] = .zero := rfl
        rw [hzero, BridgeStats.add_zero]
        rfl
      · have hne : l ≠ l' := by
          rintro rfl
          rw [hh] at hl
          cases hl
        simp [decodedBy_ran_of_ne c' _ e hne]

/-! ## Deliveries and the dispatcher -/

theorem trans_nil (h₁ : Ledger w₀ ms₁ w₁) (h₂ : Ledger w₁ [] w₂) : Ledger w₀ ms₁ w₂ := by
  simpa using h₁.trans h₂

/-- A delivery to a list of listeners: the call of each one still active when its turn comes. -/
theorem deliverTo (hw : w.Wired) (ho : w.StreamsOpen) (e : Envelope) (ls : List Nat) :
    Ledger w (w.deliverToMarks e ls) (w.deliverTo ls e).2 := by
  induction ls generalizing w with
  | nil => exact refl w
  | cons l rest ih =>
    rw [deliverTo_cons]
    unfold deliverToMarks
    by_cases hact : w.isActive l = true
    · rw [if_pos hact, if_pos hact]
      -- the call leaves the world wired, with its streams open, for the listeners after it
      have h₁ := invoke hw ho hact e
      exact h₁.trans (ih (hw.moves h₁.moves) (ho.moves hw h₁.moves))
    · rw [if_neg hact, if_neg hact]
      exact ih hw ho

theorem deliverLocal (hw : w.Wired) (ho : w.StreamsOpen) (e : Envelope) :
    Ledger w (w.deliverLocalMarks e) (w.deliverLocal e).2 := by
  have hprune : Ledger w [] ((w.setTable (w.host.table.prune e.channel w.isActive).2).logEvent
      (.deliveringEnvelope e.channel e.id (w.host.table.prune e.channel w.isActive).1.length)) :=
    quiet ((Relation.ReflTransGen.single (.prune w e.channel)).tail (.logEvent _ _)) (fun _ => rfl)
      rfl
  exact hprune.trans (deliverTo (hw.moves hprune.moves) (ho.moves hw hprune.moves) e _)

theorem emitLocal (hw : w.Wired) (ho : w.StreamsOpen) (c : Channel) (payload : Json) :
    Ledger w (w.emitLocalMarks c payload) (w.emitLocal c payload).2 := by
  have hevent : Ledger w [] (w.setTable w.host.table.nextEvent.2) :=
    quiet (.single (.nextEvent w)) (fun _ => rfl) rfl
  exact hevent.trans (deliverLocal (hw.moves hevent.moves) (ho.moves hw hevent.moves) _)

theorem deliverAll (hw : w.Wired) (ho : w.StreamsOpen) (es : List Envelope) :
    Ledger w (w.deliverAllMarks es) (w.deliverAll es) := by
  induction es generalizing w with
  | nil => exact refl w
  | cons e rest ih =>
    have h₁ := deliverLocal hw ho e
    exact h₁.trans (ih (hw.moves h₁.moves) (ho.moves hw h₁.moves))

theorem runDispatcher (hw : w.Wired) (ho : w.StreamsOpen) (d : Dispatcher) :
    Ledger w (w.runDispatcherMarks d) (w.runDispatcher d).1 := by
  unfold runDispatcherMarks World.runDispatcher
  by_cases hs : d.started = true
  · rw [if_pos hs]
    exact deliverAll hw ho d.queue
  · rw [if_neg hs]
    have hlog : Ledger w [] (w.logEvent (.dispatcherStarted d.capacity)) :=
      quiet (.single (.logEvent _ _)) (fun _ => rfl) rfl
    exact hlog.trans (deliverAll (hw.moves hlog.moves) (ho.moves hw hlog.moves) d.queue)

theorem send (hw : w.Wired) (ho : w.StreamsOpen) (d : Dispatcher) (o : Outgoing) :
    Ledger w (w.sendMarks d o) (w.send d o).2.1 := by
  have henv : Ledger w [] (w.envelopeOf o).2 := by
    cases o with
    | payload c payload => exact quiet (.single (.nextEvent w)) (fun _ => rfl) rfl
    | envelope e => exact refl w
  unfold sendMarks World.send
  rcases hx : w.envelopeOf o with ⟨e, w₁⟩
  rw [hx] at henv
  dsimp only
  -- a send waits for the task only when the dispatcher is alive and its queue full
  by_cases hr : d.running = true
  · rw [if_pos hr, if_pos hr]
    by_cases hc : d.queue.length < d.capacity
    · rw [if_pos hc, if_pos hc]
      exact henv
    · rw [if_neg hc, if_neg hc]
      exact henv.trans (runDispatcher (hw.moves henv.moves) (ho.moves hw henv.moves) d)
  · rw [if_neg hr, if_neg hr]
    exact henv

theorem finish (hw : w.Wired) (ho : w.StreamsOpen) (d : Dispatcher) :
    Ledger w (w.finishMarks d) (w.finish d) := by
  unfold finishMarks World.finish
  by_cases hr : d.running = true
  · rw [if_pos hr, if_pos hr]
    have h₁ := runDispatcher hw ho d
    exact h₁.trans_nil (quiet (.single (.logEvent _ _)) (fun _ => rfl) rfl)
  · rw [if_neg hr, if_neg hr]
    exact refl w

theorem sendAll {ε : Type} (hw : w.Wired) (ho : w.StreamsOpen) (d : Dispatcher)
    (items : List (Except ε Outgoing)) :
    Ledger w (w.sendAllMarks d items) ((w.sendAll d items).1.finish (w.sendAll d items).2) := by
  induction items generalizing w d with
  | nil => exact finish hw ho d
  | cons item rest ih =>
    cases item with
    | error x => exact ih hw ho d
    | ok o =>
      have h₁ := send hw ho d o
      exact h₁.trans (ih (hw.moves h₁.moves) (ho.moves hw h₁.moves) _)

theorem dispatch {ε : Type} (hw : w.Wired) (ho : w.StreamsOpen) (capacity : Nat) (abort : Bool)
    (items : List (Except ε Outgoing)) :
    Ledger w (w.dispatchMarks capacity abort items) (w.dispatch capacity abort items).2 := by
  rw [dispatch_snd]
  exact sendAll hw ho _ items

/-! ## The steps of a session that register nothing -/

@[simp] theorem stats_dequeue (v : World) (q : Nat) : (v.dequeue q).2.stats = v.stats := by
  unfold dequeue
  split <;> rfl

/-- A read of a queue that was made: a mark for the item it took, if there was one. -/
theorem dequeue {q : Nat} (hq : q < w.queues.size) :
    Ledger w (match (w.dequeue q).1 with
      | some p => [.took q p]
      | none => []) (w.dequeue q).2 := by
  have hitems := itemsOf_dequeue w q
  have hhead := fst_dequeue w q
  cases hd : (w.dequeue q).1 with
  | none =>
    -- an empty queue: nothing taken, nothing changed
    rw [hd] at hhead
    refine quiet (.single (.dequeue w q)) (fun _ => by rw [stats_dequeue]) (funext fun q' => ?_)
    rw [hitems]
    split
    · next he => subst he; rw [List.head?_eq_none_iff.1 hhead.symm]; rfl
    · rfl
  | some p =>
    rw [hd] at hhead
    refine ⟨.single (.dequeue w q), fun name => ?_, fun {l c b q'} _ => ?_, fun hm => ?_,
      fun hm => ?_, ?_, fun {q' p'} hm => ?_, fun s hm => ?_⟩
    · simp [BridgeStats.add_def, Mark.count, Mark.registers, Mark.cancels, Mark.delivers,
        Mark.rejects]
    · rw [hitems]
      by_cases he : q' = q
      · -- the item read is the head of the queue
        subst he
        obtain ⟨rest, hrest⟩ := List.head?_eq_some_iff.1 hhead.symm
        simp [Mark.takenFrom, Mark.decodedBy, hrest]
      · simp [Mark.takenFrom, Mark.decodedBy, Ne.symm he, he]
    · simp at hm
    · simp at hm
    · exact List.nodup_nil
    · simp only [List.mem_singleton, Mark.took.injEq] at hm
      rw [hm.1]
      exact hq
    · simp at hm

theorem nextStep (hw : w.Wired) (step : Json) :
    Ledger w (Protocol.nextStepMarks w step) (Protocol.nextStep w step).2 := by
  unfold Protocol.nextStepMarks Protocol.nextStep
  dsimp only
  cases hh : w.handles.lookup (Protocol.textOf step "sub") with
  | none => exact refl w
  | some h =>
    cases h with
    | callback s => exact refl w
    | stream s q =>
      -- whatever the answer, the world is the one the read left
      have hq := hw.queue_made (hw.stream_wired (mem_of_lookup_eq_some hh))
      have hread := dequeue hq
      dsimp only
      rcases hd : w.dequeue q with ⟨_ | p, w'⟩ <;> rw [hd] at hread <;> dsimp only at hread ⊢
      · split <;> exact hread
      · exact hread

theorem deliverStep (hw : w.Wired) (ho : w.StreamsOpen) (e : Envelope) :
    Ledger w (Protocol.deliverStepMarks w e) (Protocol.deliverStep w e).2 := by
  unfold Protocol.deliverStepMarks Protocol.deliverStep
  cases hhost : w.host <;> dsimp only
  case broadcast fan spare => exact deliverTo hw ho e _
  all_goals exact deliverLocal hw ho e

theorem emitTyped (hw : w.Wired) (ho : w.StreamsOpen) (p : Payload) :
    Ledger w (Protocol.emitTypedMarks w p) (Protocol.emitTyped w p).2 := by
  unfold Protocol.emitTypedMarks Protocol.emitTyped
  cases hhost : w.host <;> dsimp only
  case broadcast fan spare => exact refl w
  all_goals exact emitLocal hw ho _ _

theorem dispatchStep (hw : w.Wired) (ho : w.StreamsOpen) (step : Json) :
    Ledger w (Protocol.dispatchStepMarks w step) (Protocol.dispatchStep w step).2 := by
  unfold Protocol.dispatchStepMarks Protocol.dispatchStep
  cases (step.field "capacity").nat? with
  | none => exact refl w
  | some capacity =>
    dsimp only
    by_cases hbig : capacity > Protocol.dispatchCapacityLimit
    · rw [if_pos hbig, if_pos hbig]
      exact refl w
    · rw [if_neg hbig, if_neg hbig]
      exact dispatch hw ho _ _ _

theorem not_ran_nextStepMarks (w : World) (step : Json) {l : Nat} {h : Handler} {e : Envelope} :
    .ran l h e ∉ Protocol.nextStepMarks w step := by
  unfold Protocol.nextStepMarks
  split
  · split <;> simp
  · simp

/-- A step of a session registers a callback, registers a stream, acts on the host behind the
bridges with no mark, or is a run of moves that its marks account for, running only listeners
active and held when it starts. -/
theorem runStep_cases (hw : w.Wired) (ho : w.StreamsOpen) (op : String) (step : Json) :
    (∃ abandon, (Protocol.runStep w op step).2 = (Protocol.subscribeStep w step abandon).2 ∧
      Protocol.runStepMarks w op step = Protocol.subscribeStepMarks w step abandon) ∨
    ((Protocol.runStep w op step).2 = (Protocol.streamStep w step).2 ∧
      Protocol.runStepMarks w op step = Protocol.streamStepMarks w step) ∨
    (op ∈ Protocol.hostOps ∧ Protocol.runStepMarks w op step = []) ∨
    (Ledger w (Protocol.runStepMarks w op step) (Protocol.runStep w op step).2 ∧
      RunsHeld w (Protocol.runStepMarks w op step)) := by
  have hnone : RunsHeld w [] := RunsHeld.of_no_runs fun _ _ _ hm => by cases hm
  cases hop : Protocol.Op.ofName? op with
  | none =>
    refine .inr (.inr (.inr ?_))
    rw [Protocol.runStep_of_ofName?_none w step hop]
    simp only [Protocol.runStepMarks, hop]
    exact ⟨refl w, hnone⟩
  | some o =>
    rw [Protocol.runStep_of_ofName? w step hop, Protocol.runStepMarks_of_ofName? w step hop]
    -- the step and its marks take the same branch of the op
    cases o with
    | subscribe => exact .inl ⟨false, rfl, rfl⟩
    | subscribeAbandon => exact .inl ⟨true, rfl, rfl⟩
    | stream => exact .inr (.inl ⟨rfl, rfl⟩)
    | listenRaw | retire | unlisten =>
      exact .inr (.inr (.inl ⟨Protocol.mem_hostOps hop (by simp), rfl⟩))
    | next =>
      exact .inr (.inr (.inr ⟨nextStep hw step,
        RunsHeld.of_no_runs fun _ _ _ => not_ran_nextStepMarks w step⟩))
    | cancel =>
      refine .inr (.inr (.inr ?_))
      simp only [Protocol.runOp, Protocol.runOpMarks]
      cases hh : Protocol.handleOf w step with
      | ok h =>
        exact ⟨cancelHandle (Protocol.lookup_of_handleOf hh),
          RunsHeld.of_no_runs fun _ _ _ => not_ran_cancelMarks w _⟩
      | error a => exact ⟨refl w, hnone⟩
    | state =>
      refine .inr (.inr (.inr ?_))
      simp only [Protocol.runOp, Protocol.runOpMarks]
      split <;> exact ⟨refl w, hnone⟩
    | drop =>
      exact .inr (.inr (.inr ⟨dropHandle w _, RunsHeld.of_no_runs fun _ _ _ => not_ran_dropMarks w _⟩))
    | emitRaw =>
      refine .inr (.inr (.inr ?_))
      simp only [Protocol.runOp, Protocol.runOpMarks]
      cases Protocol.channelOf step "channel" with
      | error a => exact ⟨refl w, hnone⟩
      | ok c =>
        dsimp only
        cases hhost : w.host
        case broadcast fan spare =>
          exact ⟨deliverStep hw ho _, Protocol.runsHeld_deliverStep w _⟩
        all_goals exact ⟨emitLocal hw ho _ _, runsHeld_emitLocal w _ _⟩
    | emit =>
      refine .inr (.inr (.inr ?_))
      simp only [Protocol.runOp, Protocol.runOpMarks]
      cases Protocol.channelOf step "channel" with
      | error a => exact ⟨refl w, hnone⟩
      | ok c =>
        dsimp only
        -- a broadcasting host refuses before the payload is read
        cases hhost : w.host
        case broadcast fan spare => exact ⟨refl w, hnone⟩
        all_goals
          cases Payload.decode c (step.field "payload") with
          | ok p => exact ⟨emitTyped hw ho p, Protocol.runsHeld_emitTyped w p⟩
          | error err => exact ⟨refl w, hnone⟩
    | emitTerminal =>
      exact .inr (.inr (.inr ⟨emitTyped hw ho _, Protocol.runsHeld_emitTyped w _⟩))
    | deliver =>
      refine .inr (.inr (.inr ?_))
      simp only [Protocol.runOp, Protocol.runOpMarks]
      cases Envelope.decode (step.field "envelope") with
      | ok e => exact ⟨deliverStep hw ho e, Protocol.runsHeld_deliverStep w e⟩
      | error err => exact ⟨refl w, hnone⟩
    | listenerCount =>
      refine .inr (.inr (.inr ?_))
      simp only [Protocol.runOp, Protocol.runOpMarks]
      cases Protocol.channelOf step "channel" with
      | error a => exact ⟨refl w, hnone⟩
      | ok c =>
        dsimp only
        cases hhost : w.host
        case broadcast fan spare => exact ⟨refl w, hnone⟩
        all_goals exact ⟨quiet (.single (.prune w c)) (fun _ => rfl) rfl, hnone⟩
    | close =>
      refine .inr (.inr (.inr ?_))
      simp only [Protocol.runOp, Protocol.runOpMarks]
      cases hhost : w.host
      case broadcast fan spare => exact ⟨refl w, hnone⟩
      all_goals exact ⟨closeTable w, hnone⟩
    | isClosed | stats | hostCounts => exact .inr (.inr (.inr ⟨refl w, hnone⟩))
    | dispatch =>
      exact .inr (.inr (.inr ⟨dispatchStep hw ho step, Protocol.runsHeld_dispatchStep w step⟩))
    | received =>
      refine .inr (.inr (.inr ?_))
      simp only [Protocol.runOp, Protocol.runOpMarks]
      split <;> exact ⟨refl w, hnone⟩
    | debug =>
      refine .inr (.inr (.inr ?_))
      show Ledger w [] (Protocol.debugStep w step).2 ∧ RunsHeld w []
      rw [debugStep_world]
      exact ⟨refl w, hnone⟩

end Ledger

end World

end ChannelBridge
