import ChannelBridge.Proofs.Session.Moves

/-! # Listeners and the handles wired to them

A listener keeps its handler for good, and its active flag only ever falls: nothing in a session
turns a retired listener back on. New listeners come after the old ones. Each handle is wired to
its listener: a callback's listener records under the handle's name, a stream's listener queues on
the stream's own queue, which stays open while the listener is active.

* `Grows`: what every step does to the listeners; `grows_runStep` and `grows_sessionStep` over
  every step of a session, on every host.
* `Wired`: the wiring of the handles; `Wired.move`, `Wired.sessionStep`.
-/

namespace ChannelBridge

namespace World

/-- The handler of listener `l`, if it was made. -/
def handlerOf (w : World) (l : Nat) : Option Handler := w.listeners[l]?.map Listener.handler

/-- Only a listener that was made has a handler. -/
theorem lt_size_of_handlerOf {w : World} {l : Nat} {h : Handler} (hl : w.handlerOf l = some h) :
    l < w.listeners.size := by
  unfold handlerOf at hl
  cases hget : w.listeners[l]? with
  | none => simp [hget] at hl
  | some y => exact (Array.getElem?_eq_some_iff.1 hget).1

/-- A step keeps every listener made before it, with its handler; it may retire some of them and
make new ones after them, but it turns none back on. -/
structure Grows (w w' : World) : Prop where
  size_le : w.listeners.size ≤ w'.listeners.size
  handlerOf_eq : ∀ {l}, l < w.listeners.size → w'.handlerOf l = w.handlerOf l
  active_of : ∀ {l}, l < w.listeners.size → w'.isActive l = true → w.isActive l = true

namespace Grows

theorem refl (w : World) : Grows w w := ⟨Nat.le_refl _, fun _ => rfl, fun _ h => h⟩

theorem trans {u v w : World} (huv : Grows u v) (hvw : Grows v w) : Grows u w where
  size_le := Nat.le_trans huv.size_le hvw.size_le
  handlerOf_eq hl := (hvw.handlerOf_eq (Nat.lt_of_lt_of_le hl huv.size_le)).trans (huv.handlerOf_eq hl)
  active_of hl h := huv.active_of hl (hvw.active_of (Nat.lt_of_lt_of_le hl huv.size_le) h)

/-- A change that leaves the listeners leaves them grown. -/
theorem of_listeners_eq {w w' : World} (h : w'.listeners = w.listeners) : Grows w w' where
  size_le := Nat.le_of_eq (by rw [h])
  handlerOf_eq _ := by simp [handlerOf, h]
  active_of _ hl := by rwa [isActive_congr h] at hl

/-- Retiring a listener keeps every handler and lowers one flag. -/
theorem retire (w : World) (l : Nat) : Grows w (w.retire l) where
  size_le := Nat.le_of_eq (size_retire w l).symm
  handlerOf_eq {m} _ := by
    unfold handlerOf
    simp only [listeners_retire, Array.getElem?_modify]
    split
    · cases w.listeners[m]? <;> rfl
    · rfl
  active_of _ hl := by
    rw [isActive_retire] at hl
    simp only [Bool.and_eq_true] at hl
    exact hl.2

/-- Retiring listeners one after another. -/
theorem retireAll (w : World) (ls : List Nat) : Grows w (ls.foldl World.retire w) := by
  induction ls generalizing w with
  | nil => exact refl w
  | cons l rest ih => exact (retire w l).trans (ih _)

/-- A new listener comes after the old ones. -/
theorem of_listeners_push {w w' : World} {x : Listener} (h : w'.listeners = w.listeners.push x) :
    Grows w w' where
  size_le := by rw [h, Array.size_push]; omega
  handlerOf_eq hl := by simp [handlerOf, h, Array.getElem?_push, Nat.ne_of_lt hl]
  active_of hl hact := by
    rwa [isActive_of_listeners_push h, if_neg (Nat.ne_of_lt hl)] at hact

/-- Cancelling retires at most the subscription's listener. -/
theorem cancel (w : World) (s : Subscription) : Grows w (w.cancel s) := by
  by_cases hact : w.isActive s.listener = true
  · have hl : (w.cancel s).listeners = (w.retire s.listener).listeners := by
      rw [listeners_cancel, if_pos hact]
    exact (retire w s.listener).trans (of_listeners_eq hl)
  · exact of_listeners_eq (by rw [listeners_cancel, if_neg hact])

theorem cancelHandle (w : World) (h : Handle) : Grows w (w.cancelHandle h) := by
  cases h with
  | callback s => exact cancel w s
  | stream s q => exact (cancel w s).trans (of_listeners_eq (listeners_closeQueue _ q))

/-- Every move keeps the listeners, with their handlers, and turns no flag on. -/
theorem move {w w' : World} (hmove : Move w w') : Grows w w' := by
  cases hmove with
  | logEvent e => exact of_listeners_eq rfl
  | deliverCall d => exact of_listeners_eq rfl
  | bump b f => exact of_listeners_eq (listeners_bump w b f)
  | recordPayload r p => exact of_listeners_eq rfl
  | enqueue q p => exact of_listeners_eq rfl
  | dequeue q => exact of_listeners_eq (dequeue_frame w q).1
  | clearDeliveries => exact of_listeners_eq rfl
  | nextEvent => exact of_listeners_eq rfl
  | prune c => exact of_listeners_eq rfl
  | cancelHandle hh => exact cancelHandle w _
  | dropHandle name =>
    unfold dropHandle
    split
    · next h _ =>
      have hunbind : Grows w { w with handles := unbind w.handles name } := of_listeners_eq rfl
      exact hunbind.trans (cancelHandle _ h)
    · exact refl w
  | closeTable =>
    rw [closeTable_eq]
    have hset : Grows w (w.setTable w.host.table.close.2) := of_listeners_eq rfl
    exact (hset.trans (retireAll _ _)).trans (of_listeners_eq rfl)

theorem moves {w w' : World} (hrun : Moves w w') : Grows w w' :=
  Moves.lift refl (fun huv hvw => huv.trans hvw) move hrun

/-- Registering a subscription makes one listener, after the others. -/
theorem subscribe (w : World) (c : Channel) (b : BridgeRef) (sink : Sink) (abandon : Bool) :
    Grows w (w.subscribe c b sink abandon).2 := by
  obtain ⟨-, -, hout⟩ := subscribe_outcome w c b sink abandon
  rcases hout with ⟨_, -, -, -, hl⟩ | ⟨_, -, -, -, hl⟩ | ⟨_, -, -, -, hl⟩ <;>
    exact of_listeners_push hl

theorem bindActive (r : Registered × World) (name : String) (mk : Subscription → Handle) :
    Grows r.2 (World.bindActive r name mk) := by
  unfold World.bindActive
  split <;> exact of_listeners_eq rfl

theorem subscribeStep (w : World) (step : Json) (abandon : Bool) :
    Grows w (Protocol.subscribeStep w step abandon).2 := by
  rcases Protocol.subscribeStep_eq w step abandon with e | ⟨c, name, b, -, e⟩ <;> rw [e]
  · exact refl w
  · have hrec : Grows w (w.addRecording name (c == .updaterCheck)).2 := of_listeners_eq rfl
    exact hrec.trans ((subscribe _ c b _ abandon).trans (bindActive _ name _))

theorem streamStep (w : World) (step : Json) : Grows w (Protocol.streamStep w step).2 := by
  rcases Protocol.streamStep_eq w step with e | ⟨c, name, -, e⟩ <;> rw [e]
  · exact refl w
  · have hqueue : Grows w w.addQueue.2 := of_listeners_eq rfl
    exact hqueue.trans ((subscribe _ c _ _ false).trans (bindActive _ name _))

/-- Registering a raw listener makes one listener, after the others. -/
theorem listenRawStep (w : World) (step : Json) : Grows w (Protocol.listenRawStep w step).2 := by
  unfold Protocol.listenRawStep
  split
  · exact refl w
  · dsimp only
    split
    · exact refl w
    · split
      · next id w₁ hl =>
        obtain ⟨hlist, -, -⟩ := hostListen_eq hl
        rw [listeners_addListener] at hlist
        exact of_listeners_push hlist
      · next e w₁ hl =>
        obtain ⟨hlist, -, -⟩ := hostListen_eq hl
        rw [listeners_addListener] at hlist
        exact of_listeners_push hlist

/-- No step of a session, on any host, turns a listener back on or changes a handler. -/
theorem runStep (w : World) (op : String) (step : Json) : Grows w (Protocol.runStep w op step).2 := by
  rcases Protocol.runStep_cases w op step with ⟨abandon, e⟩ | e | hop | hmoves
  · rw [e]
    exact subscribeStep w step abandon
  · rw [e]
    exact streamStep w step
  · rcases Protocol.runStep_of_hostOp w step hop with e | ⟨l, e⟩ | e | ⟨c, id, e⟩ <;> rw [e]
    · exact listenRawStep w step
    · exact retire w l
    · exact refl w
    · exact of_listeners_eq rfl
  · exact moves hmoves

theorem sessionStep (w : World) (step : Json) : Grows w (Protocol.sessionStep w step).2 := by
  rw [Protocol.sessionStep_snd]
  have hclear : Grows w { w with deliveries := #[] } := of_listeners_eq rfl
  exact hclear.trans (runStep _ _ step)

/-- With no new listener, every handler stays and no flag rises. -/
theorem handlerOf_eq_of_size {w w' : World} (hg : Grows w w')
    (hsize : w'.listeners.size = w.listeners.size) (l : Nat) : w'.handlerOf l = w.handlerOf l := by
  by_cases hl : l < w.listeners.size
  · exact hg.handlerOf_eq hl
  · have hl' : w.listeners.size ≤ l := Nat.le_of_not_lt hl
    have hnone : w.handlerOf l = none := by simp [handlerOf, hl']
    have hnone' : w'.handlerOf l = none := by simp [handlerOf, hsize, hl']
    rw [hnone, hnone']

theorem active_of_size {w w' : World} (hg : Grows w w') (hsize : w'.listeners.size = w.listeners.size)
    {l : Nat} (hl : w'.isActive l = true) : w.isActive l = true :=
  hg.active_of (hsize ▸ lt_size_of_isActive hl) hl

end Grows

theorem size_cancelHandle (w : World) (h : Handle) :
    (w.cancelHandle h).listeners.size = w.listeners.size := by
  cases h <;> simp only [cancelHandle, listeners_closeQueue, listeners_cancel] <;> split <;> simp

/-- No move makes a listener. -/
theorem size_move {w w' : World} (hmove : Move w w') : w'.listeners.size = w.listeners.size := by
  cases hmove with
  | bump b f => rw [listeners_bump]
  | dequeue q => rw [(dequeue_frame w q).1]
  | cancelHandle hh => exact size_cancelHandle w _
  | dropHandle name =>
    unfold dropHandle
    split
    · next h _ => exact size_cancelHandle _ h
    · rfl
  | closeTable => simp [closeTable_eq, setTable]
  | _ => rfl

/-! ## The wiring of the handles -/

/-- Each handle is wired to its listener: a callback's listener records under the handle's name, a
stream's listener queues on the stream's queue, which stays open while the listener is active; and
no two listeners queue on one queue. -/
structure Wired (w : World) : Prop where
  callback_wired : ∀ {n s}, (n, Handle.callback s) ∈ w.handles →
    ∃ r rs, w.handlerOf s.listener = some (.typed s.channel s.bridge (.record n r rs))
  stream_wired : ∀ {n s q}, (n, Handle.stream s q) ∈ w.handles →
    w.handlerOf s.listener = some (.typed s.channel s.bridge (.queue q))
  stream_open : ∀ {n s q}, (n, Handle.stream s q) ∈ w.handles → w.isActive s.listener = true →
    w.queueClosed q = false
  queue_made : ∀ {l c b q}, w.handlerOf l = some (.typed c b (.queue q)) → q < w.queues.size
  queue_owner : ∀ {l l' c c' b b' q}, w.handlerOf l = some (.typed c b (.queue q)) →
    w.handlerOf l' = some (.typed c' b' (.queue q)) → l = l'

namespace Wired

variable {w w' : World}

/-- A change that keeps every handler and the number of queues, turns no flag on, drops handles at
most, and closes no queue an active stream reads keeps the wiring. -/
theorem shrink (hw : w.Wired) (hhandler : ∀ l, w'.handlerOf l = w.handlerOf l)
    (hfall : ∀ {l}, w'.isActive l = true → w.isActive l = true)
    (hhandles : ∀ {n h}, (n, h) ∈ w'.handles → (n, h) ∈ w.handles)
    (hqsize : w'.queues.size = w.queues.size)
    (hclosed : ∀ {n s q}, (n, Handle.stream s q) ∈ w.handles → w'.isActive s.listener = true →
      w'.queueClosed q = w.queueClosed q) : w'.Wired where
  callback_wired hm := by
    rw [hhandler]
    exact hw.callback_wired (hhandles hm)
  stream_wired hm := by
    rw [hhandler]
    exact hw.stream_wired (hhandles hm)
  stream_open hm hact := by
    rw [hclosed (hhandles hm) hact]
    exact hw.stream_open (hhandles hm) (hfall hact)
  queue_made hl := by
    rw [hhandler] at hl
    rw [hqsize]
    exact hw.queue_made hl
  queue_owner hl hl' := by
    rw [hhandler] at hl hl'
    exact hw.queue_owner hl hl'

/-- A move that keeps the handles and what is closed, and only retires listeners. -/
theorem frame (hw : w.Wired) (hg : Grows w w') (hsize : w'.listeners.size = w.listeners.size)
    (hhandles : w'.handles = w.handles) (hqsize : w'.queues.size = w.queues.size)
    (hclosed : ∀ q, w'.queueClosed q = w.queueClosed q) : w'.Wired :=
  hw.shrink (hg.handlerOf_eq_of_size hsize) (hg.active_of_size hsize)
    (fun hm => by rwa [hhandles] at hm) hqsize (fun _ _ => hclosed _)

/-- Cancelling a handle keeps the wiring, on a world with the same listeners and queues and fewer
handles. A stream closes its own queue, and its listener, the only one on that queue, is retired. -/
theorem cancelHandle (hw : w.Wired) {n : String} {h : Handle} (hm : (n, h) ∈ w.handles) {w₀ : World}
    (hl₀ : w₀.listeners = w.listeners) (hq₀ : w₀.queues = w.queues)
    (hh₀ : ∀ {n' h'}, (n', h') ∈ w₀.handles → (n', h') ∈ w.handles) : (w₀.cancelHandle h).Wired := by
  have hg : Grows w (w₀.cancelHandle h) := (Grows.of_listeners_eq hl₀).trans (Grows.cancelHandle w₀ h)
  have hsize : (w₀.cancelHandle h).listeners.size = w.listeners.size := by
    rw [size_cancelHandle, hl₀]
  refine hw.shrink (hg.handlerOf_eq_of_size hsize) (hg.active_of_size hsize) ?_ ?_ ?_
  · intro n' h' hm'
    rw [handles_cancelHandle] at hm'
    exact hh₀ hm'
  · rw [size_queues_cancelHandle, hq₀]
  · intro n' s q hm' hact
    cases h with
    | callback s₀ =>
      show (w₀.cancel s₀).queueClosed q = w.queueClosed q
      rw [queueClosed_congr ((queues_cancel w₀ s₀).trans hq₀)]
    | stream s₀ q₀ =>
      show ((w₀.cancel s₀).closeQueue q₀).queueClosed q = w.queueClosed q
      rw [queueClosed_closeQueue, queueClosed_congr ((queues_cancel w₀ s₀).trans hq₀)]
      by_cases hq : q = q₀
      · -- the stream read the cancelled queue, so it shares the cancelled listener
        subst hq
        have hsame := hw.queue_owner (hw.stream_wired hm') (hw.stream_wired hm)
        have hoff : ((w₀.cancel s₀).closeQueue q).isActive s.listener = false := by
          rw [isActive_congr (listeners_closeQueue _ q), hsame, isActive_cancel_self]
        change ((w₀.cancel s₀).closeQueue q).isActive s.listener = true at hact
        rw [hoff] at hact
        cases hact
      · simp [hq]

/-- Every move keeps the wiring. -/
theorem move (hw : w.Wired) (hmove : Move w w') : w'.Wired := by
  have hg := Grows.move hmove
  have hsize := size_move hmove
  cases hmove with
  | enqueue q p => exact hw.frame hg hsize rfl (size_queues_enqueue w q p) (queueClosed_enqueue w q p)
  | dequeue q =>
    obtain ⟨-, hh, -, hqs, hcl⟩ := dequeue_frame w q
    exact hw.frame hg hsize hh hqs hcl
  | cancelHandle hh => exact hw.cancelHandle (mem_of_lookup_eq_some hh) rfl rfl id
  | dropHandle name =>
    unfold dropHandle
    split
    · next h hh =>
      exact hw.cancelHandle (mem_of_lookup_eq_some hh) rfl rfl fun hm => (List.mem_filter.1 hm).1
    · exact hw
  | closeTable =>
    have hqueues : w.closeTable.queues = w.queues := by simp [closeTable_eq, setTable]
    have hhandles : w.closeTable.handles = w.handles := by simp [closeTable_eq, setTable]
    exact hw.frame hg hsize hhandles (by rw [hqueues]) fun q => by rw [queueClosed_congr hqueues]
  | bump b f =>
    exact hw.frame hg hsize (handles_bump w b f) (by rw [queues_bump])
      (fun q => by rw [queueClosed_congr (queues_bump w b f)])
  | _ => exact hw.frame hg hsize rfl rfl fun _ => rfl

/-- Every run of moves keeps the wiring. -/
theorem moves (hw : w.Wired) (hrun : Moves w w') : w'.Wired :=
  hrun.preserves (fun hmove hw' => hw'.move hmove) hw

/-! ## Registering keeps the wiring -/

/-- A new listener keeps the wiring when a queue it reads is one no listener reads yet. -/
theorem pushListener (hw : w.Wired) {x : Listener} (hlisteners : w'.listeners = w.listeners.push x)
    (hqueues : w'.queues = w.queues) (hhandles : w'.handles = w.handles)
    (hx : ∀ {c b q}, x.handler = .typed c b (.queue q) →
      q < w.queues.size ∧ ∀ l c' b', w.handlerOf l ≠ some (.typed c' b' (.queue q))) : w'.Wired := by
  have hg := Grows.of_listeners_push hlisteners
  -- the handlers: the old ones, and the new one at the end
  have hhandler : ∀ l, w'.handlerOf l = if l = w.listeners.size then some x.handler else w.handlerOf l := by
    intro l
    unfold handlerOf
    rw [hlisteners, Array.getElem?_push]
    split <;> rfl
  have hold : ∀ {l h}, w.handlerOf l = some h → l < w.listeners.size := lt_size_of_handlerOf
  have hclosed := queueClosed_congr hqueues
  refine {
    callback_wired := fun hm => ?_
    stream_wired := fun hm => ?_
    stream_open := fun hm hact => ?_
    queue_made := fun hl => ?_
    queue_owner := fun hl hl' => ?_ }
  · rw [hhandles] at hm
    obtain ⟨r, rs, hl⟩ := hw.callback_wired hm
    exact ⟨r, rs, (hg.handlerOf_eq (hold hl)).trans hl⟩
  · rw [hhandles] at hm
    have hl := hw.stream_wired hm
    exact (hg.handlerOf_eq (hold hl)).trans hl
  · rw [hhandles] at hm
    have hl := hw.stream_wired hm
    rw [hclosed]
    exact hw.stream_open hm (hg.active_of (hold hl) hact)
  · rw [hqueues]
    rw [hhandler] at hl
    split at hl
    · exact (hx (Option.some.inj hl)).1
    · exact hw.queue_made hl
  · rw [hhandler] at hl hl'
    split at hl <;> split at hl'
    · next h h' => rw [h, h']
    · exact absurd hl' ((hx (Option.some.inj hl)).2 _ _ _)
    · exact absurd hl ((hx (Option.some.inj hl')).2 _ _ _)
    · exact hw.queue_owner hl hl'

/-- Binding a name to a handle wired to its listener keeps the wiring. -/
theorem bind (hw : w.Wired) (name : String) (h : Handle)
    (hcallback : ∀ {s}, h = .callback s →
      ∃ r rs, w.handlerOf s.listener = some (.typed s.channel s.bridge (.record name r rs)))
    (hstream : ∀ {s q}, h = .stream s q →
      w.handlerOf s.listener = some (.typed s.channel s.bridge (.queue q)) ∧
      (w.isActive s.listener = true → w.queueClosed q = false)) :
    { w with handles := rebind w.handles name h }.Wired := by
  -- a binding is the new one or an old one
  have hmem : ∀ {n h'}, (n, h') ∈ rebind w.handles name h → (n = name ∧ h' = h) ∨ (n, h') ∈ w.handles := by
    intro n h' hm
    rcases List.mem_cons.1 hm with e | hm
    · exact .inl (Prod.mk.inj e)
    · exact .inr (List.mem_filter.1 hm).1
  refine ⟨fun hm => ?_, fun hm => ?_, fun hm hact => ?_, hw.queue_made, hw.queue_owner⟩
  · rcases hmem hm with ⟨rfl, e⟩ | hm
    · exact hcallback e.symm
    · exact hw.callback_wired hm
  · rcases hmem hm with ⟨rfl, e⟩ | hm
    · exact (hstream e.symm).1
    · exact hw.stream_wired hm
  · rcases hmem hm with ⟨rfl, e⟩ | hm
    · exact (hstream e.symm).2 hact
    · exact hw.stream_open hm hact

/-- A new queue keeps the wiring: it is open, and no listener reads it yet. -/
theorem addQueue (hw : w.Wired) : w.addQueue.2.Wired where
  callback_wired hm := hw.callback_wired hm
  stream_wired hm := hw.stream_wired hm
  stream_open hm hact := by
    have hopen := hw.stream_open hm hact
    rw [queueClosed_addQueue, if_neg (Nat.ne_of_lt (lt_size_of_queueClosed hopen))]
    exact hopen
  queue_made hl := by
    simp only [World.addQueue, Array.size_push]
    exact Nat.lt_succ_of_lt (hw.queue_made hl)
  queue_owner hl hl' := hw.queue_owner hl hl'

/-- Registering a subscription, and binding a name to a handle for it when it comes out active,
keeps the wiring: a callback records under that name, a stream reads an open queue no listener
reads yet. -/
theorem bindActive (hw : w.Wired) (c : Channel) (b : BridgeRef) (sink : Sink) (abandon : Bool)
    (name : String) (mk : Subscription → Handle)
    (hsink : ∀ {q}, sink = .queue q →
      w.queueClosed q = false ∧ ∀ l c' b', w.handlerOf l ≠ some (.typed c' b' (.queue q)))
    (hmk : ∀ s, (mk s = .callback s ∧ ∃ r rs, sink = .record name r rs) ∨
      ∃ q, mk s = .stream s q ∧ sink = .queue q) :
    (World.bindActive (w.subscribe c b sink abandon) name mk).Wired := by
  obtain ⟨hhandles, hqueues, hout⟩ := subscribe_outcome w c b sink abandon
  -- every outcome makes one listener, with the subscription's handler
  obtain ⟨a, hl⟩ : ∃ a, (w.subscribe c b sink abandon).2.listeners =
      w.listeners.push ⟨a, .typed c b sink⟩ := by
    rcases hout with ⟨_, -, -, -, hl⟩ | ⟨_, -, -, -, hl⟩ | ⟨_, -, -, -, hl⟩ <;> exact ⟨_, hl⟩
  have hw₂ : (w.subscribe c b sink abandon).2.Wired := by
    refine hw.pushListener hl hqueues hhandles fun hx => ?_
    cases hx
    obtain ⟨hopen, hfree⟩ := hsink rfl
    exact ⟨lt_size_of_queueClosed hopen, hfree⟩
  unfold World.bindActive
  split
  · next s w₂ hsub =>
    rw [hsub] at hw₂ hl hqueues
    dsimp only at hw₂ hl hqueues
    -- the active outcome: the subscription is the new listener's, on `c` through `b`
    obtain ⟨id, hs⟩ : ∃ id, s = ⟨c, id, w.listeners.size, b⟩ := by
      rcases hout with ⟨_, -, hres, -⟩ | ⟨_, -, hres, -⟩ | ⟨id, -, hres, -⟩ <;> rw [hsub] at hres
      · cases hres
      · cases hres
      · cases hres
        exact ⟨id, rfl⟩
    have hnew : w₂.handlerOf s.listener = some (.typed s.channel s.bridge sink) := by
      simp [handlerOf, hl, hs]
    refine hw₂.bind name (mk s) (fun e => ?_) (fun e => ?_)
    · rcases hmk s with ⟨hcb, r, rs, hrec⟩ | ⟨q, hst, -⟩
      · rw [hcb] at e
        cases e
        exact ⟨r, rs, hrec ▸ hnew⟩
      · rw [hst] at e
        cases e
    · rcases hmk s with ⟨hcb, -⟩ | ⟨q, hst, hq⟩
      · rw [hcb] at e
        cases e
      · rw [hst] at e
        cases e
        refine ⟨hq ▸ hnew, fun _ => ?_⟩
        rw [queueClosed_congr hqueues]
        exact (hsink hq).1
  · next r w₂ _ hsub =>
    rw [hsub] at hw₂
    exact hw₂

/-! ## Every step keeps the wiring -/

theorem subscribeStep (hw : w.Wired) (step : Json) (abandon : Bool) :
    (Protocol.subscribeStep w step abandon).2.Wired := by
  rcases Protocol.subscribeStep_eq w step abandon with e | ⟨c, name, b, -, e⟩ <;> rw [e]
  · exact hw
  · -- a recording callback: its sink records under the handle's name
    have hw₁ : (w.addRecording name (c == .updaterCheck)).2.Wired :=
      hw.frame (Grows.of_listeners_eq rfl) rfl rfl rfl fun _ => rfl
    exact hw₁.bindActive c b _ _ name .callback (fun e => by cases e)
      fun s => .inl ⟨rfl, _, _, rfl⟩

theorem streamStep (hw : w.Wired) (step : Json) : (Protocol.streamStep w step).2.Wired := by
  rcases Protocol.streamStep_eq w step with e | ⟨c, name, -, e⟩ <;> rw [e]
  · exact hw
  · -- a stream reads the queue made just before, which no listener reads yet
    refine hw.addQueue.bindActive c _ _ false name _ (fun e => ?_) fun s => .inr ⟨_, rfl, rfl⟩
    cases e
    refine ⟨by rw [queueClosed_addQueue, if_pos rfl], fun l c' b' hl => ?_⟩
    exact Nat.lt_irrefl _ (hw.queue_made hl)

/-- A raw listener reads no queue and belongs to no handle. -/
theorem listenRawStep (hw : w.Wired) (step : Json) : (Protocol.listenRawStep w step).2.Wired := by
  unfold Protocol.listenRawStep
  split
  · exact hw
  · dsimp only
    split
    · exact hw
    · split
      · next id w₁ hl =>
        obtain ⟨hlist, hhandles, hqueues⟩ := hostListen_eq hl
        rw [listeners_addListener] at hlist
        exact hw.pushListener hlist hqueues hhandles fun hx => by cases hx
      · next e w₁ hl =>
        obtain ⟨hlist, hhandles, hqueues⟩ := hostListen_eq hl
        rw [listeners_addListener] at hlist
        exact hw.pushListener hlist hqueues hhandles fun hx => by cases hx

/-- Every step of a session, on every host, keeps the wiring. -/
theorem runStep (hw : w.Wired) (op : String) (step : Json) : (Protocol.runStep w op step).2.Wired := by
  rcases Protocol.runStep_cases w op step with ⟨abandon, e⟩ | e | hop | hmoves
  · rw [e]
    exact hw.subscribeStep step abandon
  · rw [e]
    exact hw.streamStep step
  · rcases Protocol.runStep_of_hostOp w step hop with e | ⟨l, e⟩ | e | ⟨c, id, e⟩ <;> rw [e]
    · exact hw.listenRawStep step
    · exact hw.frame (Grows.retire w l) (size_retire w l) rfl rfl fun _ => rfl
    · exact hw
    · exact hw.frame (Grows.of_listeners_eq rfl) rfl rfl rfl fun _ => rfl
  · exact hw.moves hmoves

theorem sessionStep (hw : w.Wired) (step : Json) : (Protocol.sessionStep w step).2.Wired := by
  rw [Protocol.sessionStep_snd]
  exact (hw.move (.clearDeliveries w)).runStep _ step

end Wired

end World

end ChannelBridge
