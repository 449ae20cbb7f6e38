import ChannelBridge.Proofs.Session.Correspondence
import ChannelBridge.Proofs.Session.Wiring

/-! # Delivering an envelope

A listener's handler checks the envelope's channel and decodes the payload for its own channel:
a recording callback then reports the payload, a stream queues it. What one call adds to the log of
listener calls and to the queues is a function of the handler and the envelope alone
(`Handler.calls`, `Handler.queued`); reactions of a callback change flags, the host and the
handles, never the calls or the queues.

A local delivery takes the active registrations of the envelope's channel, in id order, and calls
each listener that is still active when its turn comes. When no callback on the channel reacts,
nothing changes a flag during the delivery, so every one of them is called.

A callback that does react can retire a listener whose turn has not come yet; that listener is
then neither called nor counted, so a delivery can invoke fewer handles than were active.

* `deliveries_invoke`, `queues_invoke`: one call.
* `foldl_turn_quiet`, `deliverLocal_quiet`: a delivery through handlers that do not react.
* `deliverLocal_exact`: a local delivery, read off the handles: one call per active callback on the
  channel in registration order, one queued payload per active stream, and the count of both.
-/

namespace ChannelBridge

/-- The listener calls a handler makes on an envelope: a recording callback reports the payload
decoded for its channel when the envelope is on that channel and decodes; a raw listener reports
the envelope as it is; a stream makes none. -/
def Handler.calls (e : Envelope) : Handler → List Delivery
  | .typed c _ (.record n _ _) =>
    if e.channel = c then
      match Payload.decode c e.payload with
      | .ok p => [.payload n p]
      | .error _ => []
    else []
  | .typed _ _ (.queue _) => []
  | .raw n => [.raw n e]

/-- The queue a stream handler appends to, and the payload: the one decoded for its channel when
the envelope is on that channel and decodes. -/
def Handler.queued (e : Envelope) : Handler → Option (Nat × Payload)
  | .typed c _ (.queue q) =>
    if e.channel = c then
      match Payload.decode c e.payload with
      | .ok p => some (q, p)
      | .error _ => none
    else none
  | _ => none

/-- The payloads a handler appends to queue `q` on an envelope. -/
def Handler.queuedTo (e : Envelope) (q : Nat) (h : Handler) : List Payload :=
  match h.queued e with
  | some (q', p) => if q' = q then [p] else []
  | none => []

/-- A handler with no reaction to run on receipt. -/
def Handler.quiet : Handler → Bool
  | .typed _ _ (.record _ _ reactions) => reactions.isEmpty
  | _ => true

namespace World

variable {w : World}

/-! ## Reactions -/

/-- A reaction reaches flags, the host and handles; it makes no call and touches no queue. -/
theorem react_frame (w : World) (r : Reaction) :
    (w.react r).deliveries = w.deliveries ∧ (w.react r).queues = w.queues := by
  cases r with
  | cancel name =>
    simp only [react]
    split
    · exact ⟨deliveries_cancel _ _, queues_cancel _ _⟩
    · exact ⟨rfl, rfl⟩
  | drop name =>
    simp only [react]
    split
    · next s hs =>
      -- the name is bound to a callback, so dropping it cancels that callback
      unfold dropHandle
      rw [hs]
      exact ⟨deliveries_cancel _ _, queues_cancel _ _⟩
    · exact ⟨rfl, rfl⟩
  | close =>
    simp only [react]
    exact ⟨by simp [closeTable_eq, logEvent, setTable], by simp [closeTable_eq, logEvent, setTable]⟩

theorem reactions_frame (w : World) (rs : List Reaction) :
    (rs.foldl react w).deliveries = w.deliveries ∧ (rs.foldl react w).queues = w.queues := by
  induction rs generalizing w with
  | nil => exact ⟨rfl, rfl⟩
  | cons r rest ih =>
    obtain ⟨hd, hq⟩ := react_frame w r
    obtain ⟨hd', hq'⟩ := ih (w.react r)
    exact ⟨hd'.trans hd, hq'.trans hq⟩

/-! ## One call -/

/-- A handler adds exactly its calls on the envelope to the log. -/
theorem deliveries_unwrap (w : World) (c : Channel) (b : BridgeRef) (sink : Sink) (e : Envelope) :
    (w.unwrap c b sink e).deliveries.toList =
      w.deliveries.toList ++ (Handler.typed c b sink).calls e := by
  unfold unwrap
  by_cases hc : e.channel = c
  · rw [if_neg (fun h => h hc)]
    cases hd : Payload.decode c e.payload with
    | error err => cases sink <;> simp [Handler.calls, hc, hd]
    | ok p =>
      dsimp only
      cases sink with
      | record n r rs =>
        -- the payload is reported first; the reactions add no call
        simp only [sinkPayload, if_true, deliveries_bump]
        rw [(reactions_frame _ rs).1]
        simp [Handler.calls, hc, hd]
      | queue q =>
        simp only [sinkPayload]
        split <;> simp [Handler.calls]
  · rw [if_pos hc]
    cases sink <;> simp [Handler.calls, hc]

/-- A stream handler appends to its queue exactly what it takes, while the queue is open; no other
handler touches a queue. -/
theorem queues_unwrap (w : World) (c : Channel) (b : BridgeRef) (sink : Sink) (e : Envelope) :
    (w.unwrap c b sink e).queues = match (Handler.typed c b sink).queued e with
      | some (q, p) => if w.queueClosed q then w.queues else (w.enqueue q p).queues
      | none => w.queues := by
  unfold unwrap
  by_cases hc : e.channel = c
  · rw [if_neg (fun h => h hc)]
    cases hd : Payload.decode c e.payload with
    | error err => cases sink <;> simp [Handler.queued, hc, hd]
    | ok p =>
      dsimp only
      cases sink with
      | record n r rs =>
        simp only [sinkPayload, if_true, queues_bump]
        rw [(reactions_frame _ rs).2]
        simp [Handler.queued]
      | queue q =>
        simp only [sinkPayload]
        split <;> simp_all [Handler.queued]
  · rw [if_pos hc]
    cases sink <;> simp [Handler.queued, hc]

/-- A handler that does not react changes no flag, no host and no handle. -/
theorem unwrap_quiet (w : World) {c : Channel} {b : BridgeRef} {sink : Sink} (e : Envelope)
    (hq : (Handler.typed c b sink).quiet = true) :
    (w.unwrap c b sink e).listeners = w.listeners ∧ (w.unwrap c b sink e).host = w.host ∧
    (w.unwrap c b sink e).handles = w.handles := by
  unfold unwrap
  split
  · simp
  · split
    · simp
    · next p _ =>
      dsimp only
      cases sink with
      | record n r rs =>
        -- with no reaction the callback only records and reports
        have hrs : rs = [] := by simpa [Handler.quiet] using hq
        subst hrs
        simp [sinkPayload]
      | queue q =>
        simp only [sinkPayload]
        split <;> simp

theorem deliveries_invoke (w : World) (l : Nat) (e : Envelope) :
    (w.invoke l e).deliveries.toList =
      w.deliveries.toList ++ ((w.handlerOf l).map (Handler.calls e)).getD [] := by
  unfold invoke handlerOf
  split
  · next x c b sink hx =>
    rw [hx, deliveries_unwrap]
    rfl
  · next x n hx =>
    simp [hx, Handler.calls]
  · next hnone =>
    simp [hnone]

theorem queues_invoke (w : World) (l : Nat) (e : Envelope) :
    (w.invoke l e).queues = match (w.handlerOf l).bind (Handler.queued e) with
      | some (q, p) => if w.queueClosed q then w.queues else (w.enqueue q p).queues
      | none => w.queues := by
  unfold invoke handlerOf
  split
  · next x c b sink hx =>
    rw [hx, queues_unwrap]
    rfl
  · next x n hx =>
    simp [hx, Handler.queued]
  · next hnone =>
    simp [hnone]

/-- One call appends to a queue what the handler queues there, unless the queue is closed. -/
theorem getElem?_queues_invoke (w : World) (l : Nat) (e : Envelope) (q : Nat) :
    (w.invoke l e).queues[q]? = (w.queues[q]?).map fun x : StreamQueue =>
      if x.closed then x else { x with items := x.items ++ ((w.handlerOf l).map (·.queuedTo e q)).getD [] } := by
  rw [queues_invoke]
  cases hqp : (w.handlerOf l).bind (Handler.queued e) with
  | none =>
    -- nothing is queued: a handler that queues nothing appends nothing
    have hnone : ((w.handlerOf l).map (·.queuedTo e q)).getD [] = [] := by
      cases hh : w.handlerOf l with
      | none => rfl
      | some h =>
        rw [hh] at hqp
        simp [Handler.queuedTo, show h.queued e = none from hqp]
    rw [hnone]
    cases w.queues[q]? with
    | none => rfl
    | some x => simp
  | some qp =>
    obtain ⟨q', p⟩ := qp
    obtain ⟨h, hh, hq'⟩ := Option.bind_eq_some_iff.1 hqp
    have hto : ((w.handlerOf l).map (·.queuedTo e q)).getD [] = if q' = q then [p] else [] := by
      simp [hh, Handler.queuedTo, hq']
    rw [hto]
    dsimp only
    -- the queue read is the one appended to only when it is `q'`
    by_cases hqq : q' = q
    · subst hqq
      cases hx : w.queues[q']? with
      | none => simp [queueClosed, hx]
      | some x => cases hc : x.closed <;> simp [queueClosed, enqueue, Array.getElem?_modify, hx, hc]
    · cases hx : w.queues[q]? <;> split <;> simp [enqueue, Array.getElem?_modify, hqq, hx]

theorem invoke_quiet (w : World) {l : Nat} (e : Envelope)
    (hq : ∀ h, w.handlerOf l = some h → h.quiet = true) :
    (w.invoke l e).listeners = w.listeners ∧ (w.invoke l e).host = w.host ∧
    (w.invoke l e).handles = w.handles := by
  unfold invoke
  split
  · next x c b sink hx =>
    exact unwrap_quiet w e (hq _ (by simp [handlerOf, hx]))
  · simp
  · exact ⟨rfl, rfl, rfl⟩

/-! ## A delivery through handlers that do not react -/

/-- The turn of one listener in a delivery: it is called if it is still active, and counted. -/
def turn (e : Envelope) (acc : Nat × World) (l : Nat) : Nat × World :=
  if acc.2.isActive l then (acc.1 + 1, acc.2.invoke l e) else acc

theorem deliverTo_eq_foldl (w : World) (targets : List Nat) (e : Envelope) :
    w.deliverTo targets e = targets.foldl (turn e) (0, w) := rfl

/-- Turns through handlers that do not react: no flag changes, so exactly the listeners active at
the start are called, each adding its calls and its queued payload. -/
theorem foldl_turn_quiet (e : Envelope) (targets : List Nat) (acc : Nat × World)
    (hq : ∀ l ∈ targets, ∀ h, acc.2.handlerOf l = some h → h.quiet = true) :
    (targets.foldl (turn e) acc).1 = acc.1 + (targets.filter acc.2.isActive).length ∧
    (targets.foldl (turn e) acc).2.listeners = acc.2.listeners ∧
    (targets.foldl (turn e) acc).2.host = acc.2.host ∧
    (targets.foldl (turn e) acc).2.handles = acc.2.handles ∧
    (targets.foldl (turn e) acc).2.deliveries.toList = acc.2.deliveries.toList ++
      (targets.filter acc.2.isActive).flatMap (fun l => ((acc.2.handlerOf l).map (Handler.calls e)).getD []) ∧
    ∀ q : Nat, (targets.foldl (turn e) acc).2.queues[q]? = (acc.2.queues[q]?).map fun x : StreamQueue =>
      if x.closed then x else { x with items := x.items ++
        (targets.filter acc.2.isActive).flatMap (fun l => ((acc.2.handlerOf l).map (·.queuedTo e q)).getD []) } := by
  induction targets generalizing acc with
  | nil =>
    refine ⟨rfl, rfl, rfl, rfl, by simp, fun q => ?_⟩
    rw [List.foldl_nil]
    cases acc.2.queues[q]? with
    | none => rfl
    | some x => simp
  | cons l rest ih =>
    obtain ⟨n, w⟩ := acc
    by_cases hact : w.isActive l = true
    · -- the listener is called; its call changes no flag, so the rest see the same flags
      have hturn : turn e (n, w) l = (n + 1, w.invoke l e) := if_pos hact
      obtain ⟨hl, hh, hhandles⟩ := invoke_quiet w e (hq l List.mem_cons_self)
      have hflags := isActive_congr hl
      have hhandler : (w.invoke l e).handlerOf = w.handlerOf := by
        funext m
        simp [handlerOf, hl]
      obtain ⟨h1, h2, h3, h4, h5, h6⟩ := ih (n + 1, w.invoke l e) (by
        intro m hm h' hm'
        rw [hhandler] at hm'
        exact hq m (List.mem_cons_of_mem _ hm) h' hm')
      simp only [hflags, hhandler] at h1 h5 h6
      rw [List.foldl_cons, hturn]
      refine ⟨?_, h2.trans hl, h3.trans hh, h4.trans hhandles, ?_, fun q => ?_⟩
      · rw [h1, List.filter_cons_of_pos hact, List.length_cons]
        omega
      · rw [h5, deliveries_invoke, List.filter_cons_of_pos hact, List.flatMap_cons, List.append_assoc]
      · rw [h6, getElem?_queues_invoke, List.filter_cons_of_pos hact, List.flatMap_cons]
        cases w.queues[q]? with
        | none => rfl
        | some x =>
          by_cases hcl : x.closed = true <;> simp [hcl]
    · -- the listener was retired before: it is skipped
      have hturn : turn e (n, w) l = (n, w) := if_neg hact
      have hoff : w.isActive l = false := by simpa using hact
      rw [List.foldl_cons, hturn, List.filter_cons_of_neg (by simp [hoff])]
      exact ih (n, w) fun m hm => hq m (List.mem_cons_of_mem _ hm)

/-! ## The handles behind a local delivery -/

/-- The handle that stands for a registration, if one does. -/
def ownerOf (w : World) (r : Registration) : Option (String × Handle) :=
  w.handles.find? fun p => p.2.subscription.entry == r

/-- A handle is the owner of its own registration: no other handle shares its listener. -/
theorem ownerOf_eq (hc : w.Consistent) {n : String} {h : Handle} (hm : (n, h) ∈ w.handles) :
    w.ownerOf h.subscription.entry = some (n, h) := by
  unfold ownerOf
  cases hfind : w.handles.find? fun p => p.2.subscription.entry == h.subscription.entry with
  | none =>
    have := List.find?_eq_none.1 hfind (n, h) hm
    simp at this
  | some p =>
    obtain ⟨n', h'⟩ := p
    have hm' := List.mem_of_find?_eq_some hfind
    have he : h'.subscription.entry = h.subscription.entry := by
      simpa using List.find?_some hfind
    -- the entries agree, so the listeners do, and a listener has one handle
    have hl : h'.subscription.listener = h.subscription.listener := congrArg Registration.listener he
    obtain ⟨rfl, rfl⟩ := hc.eq_of_listener_eq hm' hm hl
    rfl

/-- The registrations a local delivery on `c` calls: the active ones of `c`, in id order. -/
def liveEntries (w : World) (c : Channel) : List Registration :=
  (w.host.table.entries c).filter fun r => w.isActive r.listener

theorem deliverLocal_eq (w : World) (e : Envelope) : w.deliverLocal e =
    ((w.setTable (w.host.table.prune e.channel w.isActive).2).logEvent
      (.deliveringEnvelope e.channel e.id (w.liveEntries e.channel).length)).deliverTo
      ((w.liveEntries e.channel).map (·.listener)) e := by
  unfold deliverLocal liveEntries
  have hfst := Registry.prune_fst w.host.table e.channel w.isActive
  cases hp : w.host.table.prune e.channel w.isActive with
  | mk live t =>
    rw [hp] at hfst
    dsimp only at hfst ⊢
    rw [hfst, List.length_map]

/-- An active registration of `c` belongs to a handle on `c`, whose listener is wired to it: a
callback records under the handle's name, a stream queues on the stream's queue. -/
theorem owner_of_live (hc : w.Consistent) (hw : w.Wired) {c : Channel} {r : Registration}
    (hr : r ∈ w.liveEntries c) :
    (∃ n s, w.ownerOf r = some (n, .callback s) ∧ (n, .callback s) ∈ w.handles ∧ s.channel = c ∧
      s.entry = r ∧ ∃ b r' rs, w.handlerOf r.listener = some (.typed c b (.record n r' rs))) ∨
    (∃ n s q, w.ownerOf r = some (n, .stream s q) ∧ (n, .stream s q) ∈ w.handles ∧ s.channel = c ∧
      s.entry = r ∧ ∃ b, w.handlerOf r.listener = some (.typed c b (.queue q))) := by
  obtain ⟨hr, hact⟩ := List.mem_filter.1 hr
  obtain ⟨n, h, hm, hch, he⟩ := hc.active_owned hr hact
  have hown := ownerOf_eq hc hm
  rw [he] at hown
  have hl : h.subscription.listener = r.listener := congrArg Registration.listener he
  cases h with
  | callback s =>
    obtain ⟨r', rs, hh⟩ := hw.callback_wired hm
    simp only [Handle.subscription] at hch he hl
    refine .inl ⟨n, s, hown, hm, hch, he, s.bridge, r', rs, ?_⟩
    rw [← hl, hh, hch]
  | stream s q =>
    have hh := hw.stream_wired hm
    simp only [Handle.subscription] at hch he hl
    refine .inr ⟨n, s, q, hown, hm, hch, he, s.bridge, ?_⟩
    rw [← hl, hh, hch]

/-- The callback handle that stands for a registration, if one does. -/
def callbackOwner (w : World) (r : Registration) : Option (String × Subscription) :=
  match w.ownerOf r with
  | some (n, .callback s) => some (n, s)
  | _ => none

/-- What the owner of a live registration makes of an envelope on its channel: a callback reports
the decoded payload under its name. -/
def ownerCalls (w : World) (e : Envelope) (r : Registration) : List Delivery :=
  match w.callbackOwner r with
  | some a => (Payload.decode e.channel e.payload).toOption.toList.map (.payload a.1)
  | none => []

/-- What the owner of a live registration appends to queue `q`: a stream on `q` queues the decoded
payload. -/
def ownerQueued (w : World) (e : Envelope) (q : Nat) (r : Registration) : List Payload :=
  match w.ownerOf r with
  | some (_, .stream _ q') => if q' = q then (Payload.decode e.channel e.payload).toOption.toList else []
  | _ => []

/-- A live registration's listener makes its owner's calls and queues its owner's payload. -/
theorem handler_of_live (hc : w.Consistent) (hw : w.Wired) (e : Envelope) {r : Registration}
    (hr : r ∈ w.liveEntries e.channel) :
    ((w.handlerOf r.listener).map (Handler.calls e)).getD [] = w.ownerCalls e r ∧
    ∀ q, ((w.handlerOf r.listener).map (·.queuedTo e q)).getD [] = w.ownerQueued e q r := by
  rcases owner_of_live hc hw hr with
    ⟨n, s, hown, -, -, -, b, r', rs, hh⟩ | ⟨n, s, q', hown, -, -, -, b, hh⟩
  · refine ⟨?_, fun q => ?_⟩
    · simp only [hh, ownerCalls, callbackOwner, hown, Option.map_some, Option.getD_some,
        Handler.calls]
      cases Payload.decode e.channel e.payload <;> simp [Except.toOption]
    · simp [hh, ownerQueued, hown, Handler.queuedTo, Handler.queued]
  · refine ⟨?_, fun q => ?_⟩
    · simp [hh, ownerCalls, callbackOwner, hown, Handler.calls]
    · simp only [hh, ownerQueued, hown, Option.map_some, Option.getD_some, Handler.queuedTo,
        Handler.queued]
      cases Payload.decode e.channel e.payload <;> simp [Except.toOption]

/-- A local delivery on a consistent, wired world whose active callbacks on the channel do not
react: every live registration of the channel is called, in id order, and nothing else changes
but the calls, the queues and the pruning of the channel. -/
theorem deliverLocal_quiet (hc : w.Consistent) (hw : w.Wired) (e : Envelope)
    (hquiet : ∀ l, w.isActive l = true → ∀ b n r rs,
      w.handlerOf l = some (.typed e.channel b (.record n r rs)) → rs = []) :
    (w.deliverLocal e).1 = (w.liveEntries e.channel).length ∧
    (w.deliverLocal e).2.listeners = w.listeners ∧
    (w.deliverLocal e).2.host = w.host.setTable (w.host.table.prune e.channel w.isActive).2 ∧
    (w.deliverLocal e).2.deliveries.toList =
      w.deliveries.toList ++ (w.liveEntries e.channel).flatMap (w.ownerCalls e) ∧
    ∀ q : Nat, (w.deliverLocal e).2.queues[q]? = (w.queues[q]?).map fun x : StreamQueue =>
      if x.closed then x else
        { x with items := x.items ++ (w.liveEntries e.channel).flatMap (w.ownerQueued e q) } := by
  rw [deliverLocal_eq, deliverTo_eq_foldl]
  -- the world the turns start from: pruned and logged, with the same flags and handlers
  set w₁ := (w.setTable (w.host.table.prune e.channel w.isActive).2).logEvent
    (.deliveringEnvelope e.channel e.id (w.liveEntries e.channel).length) with hw₁
  have hflags : w₁.isActive = w.isActive := isActive_congr rfl
  have hhandler : w₁.handlerOf = w.handlerOf := rfl
  have hlive : ∀ r ∈ w.liveEntries e.channel, w.isActive r.listener = true :=
    fun r hr => (List.mem_filter.1 hr).2
  -- every turn goes to a handler that does not react
  have hq : ∀ l ∈ (w.liveEntries e.channel).map (·.listener), ∀ h, w₁.handlerOf l = some h →
      h.quiet = true := by
    intro l hl h hh
    obtain ⟨r, hr, rfl⟩ := List.mem_map.1 hl
    rw [hhandler] at hh
    rcases owner_of_live hc hw hr with ⟨n, s, -, -, -, -, b, r', rs, hh'⟩ | ⟨n, s, q, -, -, -, -, b, hh'⟩
    · rw [hh'] at hh
      cases hh
      simp [Handler.quiet, hquiet r.listener (hlive r hr) b n r' rs hh']
    · rw [hh'] at hh
      cases hh
      rfl
  obtain ⟨h1, h2, h3, -, h5, h6⟩ := foldl_turn_quiet e _ (0, w₁) hq
  dsimp only at h1 h2 h3 h5 h6
  -- all of them are active when the delivery starts
  have hall : ((w.liveEntries e.channel).map (·.listener)).filter w₁.isActive =
      (w.liveEntries e.channel).map (·.listener) := by
    rw [List.filter_eq_self, hflags]
    intro l hl
    obtain ⟨r, hr, rfl⟩ := List.mem_map.1 hl
    exact hlive r hr
  rw [hall] at h1 h5 h6
  -- each turn makes its owner's calls and queues its owner's payload
  have hcalls : ((w.liveEntries e.channel).map (·.listener)).flatMap
      (fun l => ((w₁.handlerOf l).map (Handler.calls e)).getD []) =
      (w.liveEntries e.channel).flatMap (w.ownerCalls e) := by
    rw [List.flatMap_map]
    exact List.flatMap_congr fun r hr => (handler_of_live hc hw e hr).1
  have hpushes : ∀ q, ((w.liveEntries e.channel).map (·.listener)).flatMap
      (fun l => ((w₁.handlerOf l).map (·.queuedTo e q)).getD []) =
      (w.liveEntries e.channel).flatMap (w.ownerQueued e q) := by
    intro q
    rw [List.flatMap_map]
    exact List.flatMap_congr fun r hr => (handler_of_live hc hw e hr).2 q
  refine ⟨by rw [h1, List.length_map, Nat.zero_add], h2, h3, by rw [h5, hcalls]; rfl, fun q => ?_⟩
  rw [h6 q, hpushes q]
  rfl

/-! ## From live registrations to active handles -/

/-- The active callback subscriptions on a channel, with their names, in handle order. -/
def activeCallbacks (w : World) (c : Channel) : List (String × Subscription) :=
  w.handles.filterMap fun p => match p.2 with
    | .callback s => if s.channel = c ∧ w.isActive s.listener = true then some (p.1, s) else none
    | .stream _ _ => none

theorem mem_activeCallbacks {c : Channel} {n : String} {s : Subscription} :
    (n, s) ∈ w.activeCallbacks c ↔
      (n, .callback s) ∈ w.handles ∧ s.channel = c ∧ w.isActive s.listener = true := by
  unfold activeCallbacks
  constructor
  · intro hm
    obtain ⟨⟨n', h⟩, hm, hsome⟩ := List.mem_filterMap.1 hm
    cases h with
    | callback s' =>
      dsimp only at hsome
      split at hsome
      · next hsel =>
        cases hsome
        exact ⟨hm, hsel⟩
      · cases hsome
    | stream s' q => cases hsome
  · rintro ⟨hm, hsel⟩
    exact List.mem_filterMap.2 ⟨(n, .callback s), hm, by simp [hsel]⟩

/-- The callbacks a delivery on `c` reaches are the active callbacks on `c`. -/
theorem mem_callbackOwners (hc : w.Consistent) (hw : w.Wired) {c : Channel} {n : String}
    {s : Subscription} :
    (n, s) ∈ (w.liveEntries c).filterMap w.callbackOwner ↔ (n, s) ∈ w.activeCallbacks c := by
  rw [mem_activeCallbacks]
  constructor
  · intro hm
    obtain ⟨r, hr, hown⟩ := List.mem_filterMap.1 hm
    have hact := (List.mem_filter.1 hr).2
    rcases owner_of_live hc hw hr with ⟨n', s', ho, hm', hch, he, -⟩ | ⟨n', s', q, ho, -⟩
    · simp only [callbackOwner, ho] at hown
      cases hown
      have hl : s.listener = r.listener := congrArg Registration.listener he
      exact ⟨hm', hch, hl ▸ hact⟩
    · simp [callbackOwner, ho] at hown
  · rintro ⟨hm, hch, hact⟩
    -- the subscription's own registration is live on `c`, and it is the owner
    have hreg := hc.active_registered hm hact
    simp only [Handle.subscription] at hreg
    rw [hch] at hreg
    refine List.mem_filterMap.2 ⟨s.entry, List.mem_filter.2 ⟨hreg, hact⟩, ?_⟩
    have ho := ownerOf_eq hc hm
    simp only [Handle.subscription] at ho
    simp [callbackOwner, ho]

/-- The owner of a registration carries its id. -/
theorem registration_of_callbackOwner {r : Registration} {a : String × Subscription}
    (h : w.callbackOwner r = some a) : a.2.registration = r.id := by
  unfold callbackOwner at h
  split at h
  · next n s ho =>
    cases h
    have he : (Handle.callback s).subscription.entry = r := by
      simpa using List.find?_some ho
    exact congrArg Registration.id he
  · cases h

/-- The callbacks a delivery on `c` reaches come in increasing registration order, once each. -/
theorem callbackOwners_pairwise (hc : w.Consistent) (c : Channel) :
    ((w.liveEntries c).filterMap w.callbackOwner).Pairwise
      (fun a b => a.2.registration < b.2.registration) := by
  have hids : (w.liveEntries c).Pairwise (fun r s => r.id < s.id) :=
    (hc.ids_increase c).filter _
  refine hids.filterMap _ fun {r s} hrs a ha b hb => ?_
  rw [registration_of_callbackOwner ha, registration_of_callbackOwner hb]
  exact hrs

theorem activeCallbacks_nodup (hc : w.Consistent) (c : Channel) : (w.activeCallbacks c).Nodup := by
  have hnodup : w.handles.Nodup := (List.Nodup.of_map _ hc.names_nodup)
  -- a name and a subscription give back the handle
  refine hnodup.filterMap fun p p' a ha ha' => ?_
  obtain ⟨n, h⟩ := p
  obtain ⟨n', h'⟩ := p'
  cases h with
  | stream s q => cases ha
  | callback s =>
    cases h' with
    | stream s' q' => cases ha'
    | callback s' =>
      simp only [Option.mem_def] at ha ha'
      split at ha
      · split at ha'
        · rw [← ha'] at ha
          cases ha
          rfl
        · cases ha'
      · cases ha

/-- The calls of a delivery, owner by owner, are the reports of the callbacks it reaches. -/
theorem flatMap_ownerCalls (e : Envelope) (l : List Registration) :
    l.flatMap (w.ownerCalls e) = (l.filterMap w.callbackOwner).flatMap fun a =>
      (Payload.decode e.channel e.payload).toOption.toList.map (.payload a.1) := by
  induction l with
  | nil => rfl
  | cons r rest ih =>
    rw [List.flatMap_cons, ih, List.filterMap_cons]
    unfold ownerCalls
    cases w.callbackOwner r with
    | none => rfl
    | some a => rfl

/-- In a list with no repeats where only `x` gives anything, the whole gives what `x` gives. -/
theorem flatMap_eq_of_unique {α β : Type} {l : List α} {f : α → List β} {x : α} (hnodup : l.Nodup)
    (hx : x ∈ l) (hothers : ∀ y ∈ l, y ≠ x → f y = []) : l.flatMap f = f x := by
  induction l with
  | nil => cases hx
  | cons a rest ih =>
    obtain ⟨ha, hrest⟩ := List.nodup_cons.1 hnodup
    rw [List.flatMap_cons]
    rcases List.mem_cons.1 hx with rfl | hx'
    · -- `x` comes first; it does not come again
      have hnone : rest.flatMap f = [] := List.flatMap_eq_nil_iff.2 fun y hy =>
        hothers y (List.mem_cons_of_mem _ hy) fun e => ha (e ▸ hy)
      rw [hnone, List.append_nil]
    · have hne : a ≠ x := fun e => ha (e ▸ hx')
      rw [hothers a List.mem_cons_self hne, List.nil_append]
      exact ih hrest hx' fun y hy => hothers y (List.mem_cons_of_mem _ hy)

theorem liveEntries_nodup (hc : w.Consistent) (c : Channel) : (w.liveEntries c).Nodup :=
  ((hc.ids_increase c).filter _).imp fun hlt e => Nat.ne_of_lt hlt (congrArg Registration.id e)

/-- A live registration whose owner queues on `q` belongs to the stream on `q`: no two listeners
queue on one queue. -/
theorem ownerQueued_eq_nil (hc : w.Consistent) (hw : w.Wired) (e : Envelope) {q : Nat}
    {r : Registration} (hr : r ∈ w.liveEntries e.channel)
    (hnot : ∀ n s, (n, Handle.stream s q) ∈ w.handles → s.channel = e.channel → s.entry ≠ r) :
    w.ownerQueued e q r = [] := by
  rcases owner_of_live hc hw hr with ⟨n, s, ho, -⟩ | ⟨n, s, q', ho, hm, hch, he, -⟩
  · simp [ownerQueued, ho]
  · simp only [ownerQueued, ho]
    split
    · next hq =>
      subst hq
      exact absurd he (hnot n s hm hch)
    · rfl

/-- An active stream on the envelope's channel gets the decoded payload, once. -/
theorem flatMap_ownerQueued_stream (hc : w.Consistent) (hw : w.Wired) (e : Envelope) {n : String}
    {s : Subscription} {q : Nat} (hm : (n, Handle.stream s q) ∈ w.handles) (hch : s.channel = e.channel)
    (hact : w.isActive s.listener = true) :
    (w.liveEntries e.channel).flatMap (w.ownerQueued e q) =
      (Payload.decode e.channel e.payload).toOption.toList := by
  have hreg := hc.active_registered hm hact
  simp only [Handle.subscription] at hreg
  rw [hch] at hreg
  have hlive : s.entry ∈ w.liveEntries e.channel := List.mem_filter.2 ⟨hreg, hact⟩
  have ho := ownerOf_eq hc hm
  simp only [Handle.subscription] at ho
  rw [flatMap_eq_of_unique (liveEntries_nodup hc _) hlive fun r hr hne => ?_]
  · simp [ownerQueued, ho]
  · refine ownerQueued_eq_nil hc hw e hr fun n' s' hm' hch' he => hne ?_
    -- both streams read `q`, so they share their listener, and so their registration
    have hsame := hw.queue_owner (hw.stream_wired hm') (hw.stream_wired hm)
    have hr' : s'.entry ∈ w.host.table.entries e.channel := he ▸ (List.mem_filter.1 hr).1
    have hentry : s'.entry = s.entry := (hc.listeners_apart hr' hreg hsame).2
    rw [← he, hentry]

/-! ## Exact delivery -/

/-- A session starts wired: it has no handle and no listener. -/
theorem wired_start (h : Host) : (World.start h).Wired where
  callback_wired hm := by simp [start] at hm
  stream_wired hm := by simp [start] at hm
  stream_open hm := by simp [start] at hm
  queue_made hl := by simp [start, handlerOf] at hl
  queue_owner hl := by simp [start, handlerOf] at hl

theorem Reachable.wired {w : World} (hr : w.Reachable) : w.Wired := by
  induction hr with
  | start _ _ => exact wired_start _
  | step _ step _ _ ih => exact ih.sessionStep step

/-- Exact local delivery: on a world a session reaches, or reaches in the middle of a step, a local
delivery of an envelope on `c`, when no active callback on `c` reacts on receipt, returns the
number of active handles on `c`; the calls are one report of the decoded payload per active
callback on `c`, in increasing registration order, and none when the payload does not decode;
each active stream on `c` queues the decoded payload and no other queue changes; and the live
count of every channel stays as it was. -/
theorem deliverLocal_exact {w₀ w : World} (hr : w₀.Reachable) (hm : Moves w₀ w) (e : Envelope)
    (hquiet : ∀ l, w.isActive l = true → ∀ b n r rs,
      w.handlerOf l = some (.typed e.channel b (.record n r rs)) → rs = []) :
    (w.deliverLocal e).1 = (w.handles.filter fun p =>
      p.2.subscription.channel == e.channel && w.isActive p.2.subscription.listener).length ∧
    (∃ calls : List (String × Subscription), calls.Perm (w.activeCallbacks e.channel) ∧
      calls.Pairwise (fun a b => a.2.registration < b.2.registration) ∧
      (w.deliverLocal e).2.deliveries.toList = w.deliveries.toList ++ calls.flatMap fun a =>
        (Payload.decode e.channel e.payload).toOption.toList.map (.payload a.1)) ∧
    (∀ n s q, (n, Handle.stream s q) ∈ w.handles → s.channel = e.channel →
      w.isActive s.listener = true → ((w.deliverLocal e).2.queues[q]?).map (·.items) =
        (w.queues[q]?).map (·.items ++ (Payload.decode e.channel e.payload).toOption.toList)) ∧
    (∀ q, (∀ n s, (n, Handle.stream s q) ∈ w.handles → s.channel = e.channel →
      w.isActive s.listener = false) → (w.deliverLocal e).2.queues[q]? = w.queues[q]?) ∧
    (∀ c, ((w.deliverLocal e).2.liveCount c).1 = (w.liveCount c).1) := by
  have hc : w.Consistent := hr.consistent.moves hm
  have hw : w.Wired := hr.wired.moves hm
  obtain ⟨hcount, hlisteners, hhost, hcalls, hqueues⟩ := deliverLocal_quiet hc hw e hquiet
  refine ⟨?_, ⟨(w.liveEntries e.channel).filterMap w.callbackOwner, ?_,
    callbackOwners_pairwise hc _, ?_⟩, ?_, ?_, ?_⟩
  · -- the live registrations stand one for one for the active handles
    rw [hcount, ← hc.liveCount_eq, liveCount_fst]
    rfl
  · have hnodup : ((w.liveEntries e.channel).filterMap w.callbackOwner).Nodup := by
      refine (callbackOwners_pairwise hc e.channel).imp ?_
      rintro a b hlt rfl
      exact Nat.lt_irrefl _ hlt
    exact (List.perm_ext_iff_of_nodup hnodup (activeCallbacks_nodup hc _)).2 fun a =>
      mem_callbackOwners hc hw
  · rw [hcalls, flatMap_ownerCalls]
  · intro n s q hm hch hact
    rw [hqueues q, flatMap_ownerQueued_stream hc hw e hm hch hact]
    -- the stream's queue is open while its listener is active
    obtain ⟨x, hx, hopen⟩ := getElem?_of_queueClosed (hw.stream_open hm hact)
    simp [hx, hopen]
  · intro q hnone
    have hpush : (w.liveEntries e.channel).flatMap (w.ownerQueued e q) = [] :=
      List.flatMap_eq_nil_iff.2 fun r hr => ownerQueued_eq_nil hc hw e hr fun n s hm hch he => by
        have hact := (List.mem_filter.1 hr).2
        rw [← he] at hact
        change w.isActive s.listener = true at hact
        rw [hnone n s hm hch] at hact
        cases hact
    rw [hqueues q, hpush]
    cases w.queues[q]? with
    | none => rfl
    | some x => simp
  · -- pruning drops only retired registrations, and no flag changed
    intro c
    rw [liveCount_fst, liveCount_fst, isActive_congr hlisteners, hhost, Host.table_setTable,
      Registry.entries_prune]
    split
    · next hce =>
      simp only [hce, List.filter_filter, Bool.and_self]
    · rfl

/-- No active listener reacts when no handler of the world does: the side condition of a quiet
delivery, read off the listener table. -/
theorem noReactions_of_quiet (hq : ∀ x ∈ w.listeners.toList, x.handler.quiet = true) (c : Channel) :
    ∀ l, w.isActive l = true → ∀ b n r rs,
      w.handlerOf l = some (.typed c b (.record n r rs)) → rs = [] := by
  intro l _ b n r rs h
  obtain ⟨x, hx, hh⟩ := Option.map_eq_some_iff.1 h
  have hquiet := hq x (Array.mem_toList_iff.2 (Array.mem_of_getElem? hx))
  rw [hh] at hquiet
  simpa [Handler.quiet] using hquiet

/-- Callback subscriptions to the terminal output under the names `a` and, through the bridge
`other`, `b`; a stream `s` of the terminal output; and a callback subscription `d` to the
dictation events. -/
def mixedSubscribers : World :=
  let w₁ := (Protocol.sessionStep (start (.local .empty)) (.obj [("as", .str "a"),
    ("channel", .str "terminal-output"), ("op", .str "subscribe")])).2
  let w₂ := (Protocol.sessionStep w₁ (.obj [("as", .str "b"), ("bridge", .str "other"),
    ("channel", .str "terminal-output"), ("op", .str "subscribe")])).2
  let w₃ := (Protocol.sessionStep w₂ (.obj [("as", .str "s"),
    ("channel", .str "terminal-output"), ("op", .str "stream")])).2
  (Protocol.sessionStep w₃ (.obj [("as", .str "d"),
    ("channel", .str "dictation-event"), ("op", .str "subscribe")])).2

/-- A line of terminal output. -/
def terminalLine : Json :=
  .obj [("data", .str "ls\n"), ("terminalId", .str "t1"), ("workspaceId", .str "w1")]

/-- A terminal line reaches the three subscriptions of the terminal output and no other: `a` is
called before `b` whichever bridge each came through, the stream queues the line, and the live
counts stay. -/
theorem mixedSubscribers_deliverLocal :
    mixedSubscribers.Reachable ∧
    (mixedSubscribers.deliverLocal ⟨0, .terminalOutput, epoch, terminalLine⟩).1 = 3 ∧
    (mixedSubscribers.deliverLocal ⟨0, .terminalOutput, epoch, terminalLine⟩).2.deliveries.toList =
      [.payload "a" (.terminal ⟨"w1", "t1", "ls\n"⟩), .payload "b" (.terminal ⟨"w1", "t1", "ls\n"⟩)] ∧
    ((mixedSubscribers.deliverLocal ⟨0, .terminalOutput, epoch, terminalLine⟩).2.queues[0]?).map
      (·.items) = some [.terminal ⟨"w1", "t1", "ls\n"⟩] ∧
    (∀ c, ((mixedSubscribers.deliverLocal ⟨0, .terminalOutput, epoch, terminalLine⟩).2.liveCount c).1 =
      (mixedSubscribers.liveCount c).1) := by
  have hr : mixedSubscribers.Reachable :=
    .step (.step (.step (.step (.start rfl rfl) _ (by decide) (by decide)) _ (by decide)
      (by decide)) _ (by decide) (by decide)) _ (by decide) (by decide)
  obtain ⟨hcount, ⟨calls, hperm, hsorted, hcalls⟩, hstream, -, hlive⟩ :=
    deliverLocal_exact hr .refl ⟨0, .terminalOutput, epoch, terminalLine⟩
      (noReactions_of_quiet (by decide) _)
  -- the two callbacks of the terminal output, newest first; the dictation callback is not one
  have hactive : mixedSubscribers.activeCallbacks .terminalOutput =
      [("b", ⟨.terminalOutput, 2, 1, .named "other"⟩),
        ("a", ⟨.terminalOutput, 1, 0, .named "main"⟩)] := by
    decide
  -- the calls are made in registration order, so `a` is called before `b`
  have horder : calls = [("a", ⟨.terminalOutput, 1, 0, .named "main"⟩),
      ("b", ⟨.terminalOutput, 2, 1, .named "other"⟩)] := by
    refine List.Perm.eq_of_pairwise
      (fun a b _ _ hab hba => absurd (Nat.lt_trans hab hba) (Nat.lt_irrefl _))
      hsorted (by decide) ?_
    have hperm' : calls.Perm (mixedSubscribers.activeCallbacks .terminalOutput) := hperm
    rw [hactive] at hperm'
    exact hperm'.trans (.swap _ _ _)
  refine ⟨hr, by rw [hcount]; decide, ?_, ?_, hlive⟩
  · rw [hcalls, horder]
    rfl
  · rw [hstream "s" ⟨.terminalOutput, 3, 2, .named "main"⟩ 0 (by decide) rfl (by decide)]
    rfl

/-- Two callback subscriptions to the terminal output: first `a`, which cancels `b` on receipt,
then `b`. -/
def cancellingPair : World :=
  (Protocol.sessionStep (Protocol.sessionStep (start (.local .empty)) (.obj [("as", .str "a"),
    ("channel", .str "terminal-output"), ("on_receive", .arr [.obj [("cancel", .str "b")]]),
    ("op", .str "subscribe")])).2 (.obj [("as", .str "b"),
    ("channel", .str "terminal-output"), ("op", .str "subscribe")])).2

/-- A callback that cancels a later subscription of its channel takes that subscription's call away
from the same delivery: of two active subscriptions, one is invoked. -/
theorem emitLocal_skips_handle_cancelled_mid_delivery :
    cancellingPair.Reachable ∧
    (cancellingPair.handles.filter fun p => p.2.subscription.channel == .terminalOutput &&
      cancellingPair.isActive p.2.subscription.listener).length = 2 ∧
    (cancellingPair.emitLocal .terminalOutput terminalLine).1 = 1 := by
  refine ⟨.step (.step (.start rfl rfl) _ (by decide) (by decide)) _ (by decide) (by decide), ?_, ?_⟩
  · decide
  · decide

end World

end ChannelBridge
