import ChannelBridge.Protocol.Session
import Mathlib.Logic.Relation
import Mathlib.Tactic.SplitIfs

/-! # What a session step can do

Every step of a session changes its world by a run of a few kinds of moves. Handlers run inside
deliveries and their reactions cancel, drop and close, so the same moves also describe what one
listener call can do. This file says once which moves there are and proves that every operation of
a session is a run of them, apart from the steps that register something.

* `Move`: writing a log event, reporting or recording a payload, queueing or taking a payload,
  counting on a bridge, taking an event id, pruning one channel, cancelling or dropping a named
  handle, and closing the local table.
* `moves_deliverTo`, `moves_deliverLocal`, `moves_dispatch`: deliveries and dispatcher runs are runs
  of moves, whatever the handlers do.
* `runStep_cases`: a step of a session registers a subscription, registers a stream, acts on the
  host behind the bridges (`hostOps`), or is a run of moves.

An invariant of the registration table then needs one lemma per move, one for each registering
step, and the lifting below (`Moves.preserves`).
-/

namespace ChannelBridge

namespace World

/-- One change a session makes to its world. -/
inductive Move : World → World → Prop
  | logEvent (w : World) (e : LogEvent) : Move w (w.logEvent e)
  | deliverCall (w : World) (d : Delivery) : Move w (w.deliverCall d)
  | bump (w : World) (b : BridgeRef) (f : BridgeStats → BridgeStats) : Move w (w.bump b f)
  | recordPayload (w : World) (r : Nat) (p : Payload) : Move w (w.recordPayload r p)
  | enqueue (w : World) (q : Nat) (p : Payload) : Move w (w.enqueue q p)
  | dequeue (w : World) (q : Nat) : Move w (w.dequeue q).2
  | clearDeliveries (w : World) : Move w { w with deliveries := #[] }
  | nextEvent (w : World) : Move w (w.setTable w.host.table.nextEvent.2)
  | prune (w : World) (c : Channel) : Move w (w.setTable (w.host.table.prune c w.isActive).2)
  | cancelHandle (w : World) {name : String} {h : Handle} (hh : w.handles.lookup name = some h) :
      Move w (w.cancelHandle h)
  | dropHandle (w : World) (name : String) : Move w (w.dropHandle name).2
  | closeTable (w : World) : Move w w.closeTable

/-- A run of moves. -/
abbrev Moves : World → World → Prop := Relation.ReflTransGen Move

/-- A property kept by every move is kept by every run of moves. -/
theorem Moves.preserves {P : World → Prop} (hmove : ∀ {w w'}, Move w w' → P w → P w')
    {w w' : World} (hrun : Moves w w') (hw : P w) : P w' := by
  induction hrun with
  | refl => exact hw
  | tail _ hstep ih => exact hmove hstep ih

/-- A relation between worlds that every move makes and that composes holds along every run. -/
theorem Moves.lift {R : World → World → Prop} (hrefl : ∀ w, R w w)
    (htrans : ∀ {u v w}, R u v → R v w → R u w) (hmove : ∀ {w w'}, Move w w' → R w w')
    {w w' : World} (hrun : Moves w w') : R w w' := by
  induction hrun with
  | refl => exact hrefl w
  | tail _ hstep ih => exact htrans ih (hmove hstep)

/-! ## Listener calls -/

theorem moves_react (w : World) (r : Reaction) : Moves w (w.react r) := by
  cases r with
  | cancel name =>
    simp only [react]
    split
    · next s hs => exact .single (.cancelHandle w hs)
    · exact .refl
  | drop name =>
    simp only [react]
    split
    · exact .single (.dropHandle w name)
    · exact .refl
  | close => exact .single (.closeTable w)

theorem moves_reactions (w : World) (rs : List Reaction) : Moves w (rs.foldl react w) := by
  induction rs generalizing w with
  | nil => exact .refl
  | cons r rs ih => exact (moves_react w r).trans (ih _)

theorem moves_sinkPayload (w : World) (p : Payload) (sink : Sink) :
    Moves w (w.sinkPayload p sink).2 := by
  cases sink with
  | record handle r reactions =>
    -- the payload is recorded and reported before the reactions run
    have hrecord : Moves w ((w.recordPayload r p).deliverCall (.payload handle p)) :=
      (Relation.ReflTransGen.single (.recordPayload w r p)).tail (.deliverCall _ _)
    exact hrecord.trans (moves_reactions _ reactions)
  | queue q =>
    simp only [sinkPayload]
    split
    · exact .refl
    · exact .single (.enqueue w q p)

theorem moves_unwrap (w : World) (c : Channel) (b : BridgeRef) (sink : Sink) (e : Envelope) :
    Moves w (w.unwrap c b sink e) := by
  unfold unwrap
  split
  · exact (Relation.ReflTransGen.single (.bump _ _ _)).tail (.logEvent _ _)
  · split
    · exact (Relation.ReflTransGen.single (.bump _ _ _)).tail (.logEvent _ _)
    · next p _ =>
      have hsink := moves_sinkPayload w p sink
      cases hsp : w.sinkPayload p sink with
      | mk taken w' =>
        rw [hsp] at hsink
        dsimp only
        split
        · exact hsink.tail (.bump _ _ _)
        · exact hsink

theorem moves_invoke (w : World) (l : Nat) (e : Envelope) : Moves w (w.invoke l e) := by
  unfold invoke
  split
  · exact moves_unwrap _ _ _ _ _
  · exact .single (.deliverCall _ _)
  · exact .refl

/-- A fold whose every step moves the world it carries moves it from start to end. -/
theorem moves_foldl {σ α : Type} (world : σ → World) (f : σ → α → σ)
    (hf : ∀ acc a, Moves (world acc) (world (f acc a))) (xs : List α) (acc : σ) :
    Moves (world acc) (world (xs.foldl f acc)) := by
  induction xs generalizing acc with
  | nil => exact .refl
  | cons a rest ih => exact (hf acc a).trans (ih _)

theorem moves_deliverTo (w : World) (targets : List Nat) (e : Envelope) :
    Moves w (w.deliverTo targets e).2 := by
  unfold deliverTo
  refine moves_foldl Prod.snd _ (fun acc l => ?_) targets (0, w)
  obtain ⟨n, w⟩ := acc
  dsimp only
  split
  · exact moves_invoke w l e
  · exact .refl

theorem moves_deliverLocal (w : World) (e : Envelope) : Moves w (w.deliverLocal e).2 := by
  have hprune : Moves w ((w.setTable (w.host.table.prune e.channel w.isActive).2).logEvent
      (.deliveringEnvelope e.channel e.id (w.host.table.prune e.channel w.isActive).1.length)) :=
    (Relation.ReflTransGen.single (.prune w e.channel)).tail (.logEvent _ _)
  exact hprune.trans (moves_deliverTo _ _ _)

theorem moves_emitLocal (w : World) (c : Channel) (payload : Json) :
    Moves w (w.emitLocal c payload).2 :=
  (Relation.ReflTransGen.single (.nextEvent w)).trans (moves_deliverLocal _ _)

theorem moves_liveCount (w : World) (c : Channel) : Moves w (w.liveCount c).2 :=
  .single (.prune w c)

/-! ## The dispatcher -/

theorem moves_deliverAll (w : World) (es : List Envelope) : Moves w (w.deliverAll es) := by
  induction es generalizing w with
  | nil => exact .refl
  | cons e rest ih => exact (moves_deliverLocal w e).trans (ih _)

theorem moves_runDispatcher (w : World) (d : Dispatcher) : Moves w (w.runDispatcher d).1 := by
  unfold runDispatcher
  split
  · exact moves_deliverAll _ _
  · exact (Relation.ReflTransGen.single (.logEvent _ _)).trans (moves_deliverAll _ _)

theorem moves_envelopeOf (w : World) (o : Outgoing) : Moves w (w.envelopeOf o).2 := by
  cases o with
  | payload c payload => exact .single (.nextEvent w)
  | envelope e => exact .refl

theorem moves_send (w : World) (d : Dispatcher) (o : Outgoing) : Moves w (w.send d o).2.1 := by
  unfold send
  have henv := moves_envelopeOf w o
  cases hx : w.envelopeOf o with
  | mk e w' =>
    rw [hx] at henv
    dsimp only
    split
    · by_cases hq : d.queue.length < d.capacity
      · simp only [hq, if_true]
        exact henv
      · simp only [hq, if_false]
        exact henv.trans (moves_runDispatcher _ _)
    · exact henv

theorem moves_finish (w : World) (d : Dispatcher) : Moves w (w.finish d) := by
  unfold finish
  split
  · exact (moves_runDispatcher w d).tail (.logEvent _ _)
  · exact .refl

theorem moves_dispatch {ε : Type} (w : World) (capacity : Nat) (abort : Bool)
    (items : List (Except ε Outgoing)) : Moves w (w.dispatch capacity abort items).2 := by
  unfold dispatch
  dsimp only
  -- the answers and the dispatcher travel beside the world through the sends
  refine (moves_foldl (fun acc : List (Except (ε ⊕ HostError) Unit) × World × Dispatcher => acc.2.1)
    _ (fun acc item => ?_) items ([], w, _)).trans (moves_finish _ _)
  obtain ⟨out, w, d⟩ := acc
  cases item with
  | error x => exact .refl
  | ok o =>
    have hsend := moves_send w d o
    dsimp only
    split
    · next w' d' heq => rw [heq] at hsend; exact hsend
    · next e w' d' heq => rw [heq] at hsend; exact hsend

/-! ## Registering -/

/-- What registering a subscription comes to, on any host. The listener is made first and keeps
its flag only when the host acknowledges; a delayed host's registration given up before its
acknowledgement stays in the host's table, retired. -/
theorem subscribe_outcome (w : World) (c : Channel) (b : BridgeRef) (sink : Sink) (abandon : Bool) :
    (w.subscribe c b sink abandon).2.handles = w.handles ∧
    (w.subscribe c b sink abandon).2.queues = w.queues ∧
    ((∃ e, (w.host.register c w.listeners.size).1 = .error e ∧
        (w.subscribe c b sink abandon).1 = .failed e ∧
        (w.subscribe c b sink abandon).2.host = (w.host.register c w.listeners.size).2 ∧
        (w.subscribe c b sink abandon).2.listeners = w.listeners.push ⟨false, .typed c b sink⟩) ∨
     (∃ id, (w.host.register c w.listeners.size).1 = .ok id ∧
        (w.subscribe c b sink abandon).1 = .abandoned ∧
        (w.subscribe c b sink abandon).2.host = (w.host.register c w.listeners.size).2 ∧
        (w.subscribe c b sink abandon).2.listeners = w.listeners.push ⟨false, .typed c b sink⟩) ∨
     (∃ id, (w.host.register c w.listeners.size).1 = .ok id ∧
        (w.subscribe c b sink abandon).1 = .active ⟨c, id, w.listeners.size, b⟩ ∧
        (w.subscribe c b sink abandon).2.host = (w.host.register c w.listeners.size).2.acknowledge ∧
        (w.subscribe c b sink abandon).2.listeners = w.listeners.push ⟨true, .typed c b sink⟩)) := by
  unfold subscribe
  dsimp only [addListener]
  split
  · next e w' hreg =>
    obtain ⟨hr, hhost, hlist, hhandles, hqueues⟩ := hostRegister_eq hreg
    refine ⟨by simpa using hhandles, by simpa using hqueues, .inl ⟨e, hr, rfl, by simpa using hhost, ?_⟩⟩
    simp [hlist, modify_push_size]
  · next id w' hreg =>
    obtain ⟨hr, hhost, hlist, hhandles, hqueues⟩ := hostRegister_eq hreg
    -- the acknowledgement is waited for unless the subscribe is given up first
    split
    · refine ⟨by simpa using hhandles, by simpa using hqueues, .inr (.inl ⟨id, hr, rfl, by simpa using hhost, ?_⟩)⟩
      simp [hlist, modify_push_size]
    · refine ⟨by simpa using hhandles, by simpa using hqueues, .inr (.inr ⟨id, hr, rfl, ?_, ?_⟩)⟩
      · simp [hhost]
      · simpa using hlist

/-! ## Session steps -/

theorem moves_nextStep (w : World) (step : Json) : Moves w (Protocol.nextStep w step).2 := by
  unfold Protocol.nextStep
  dsimp only
  split
  · next s q _ =>
    have htake := Relation.ReflTransGen.single (Move.dequeue w q)
    cases hq : w.dequeue q with
    | mk p w' =>
      rw [hq] at htake
      cases p with
      | some p => exact htake
      | none =>
        dsimp only
        split <;> exact htake
  · exact .refl

theorem debugStep_world (w : World) (step : Json) : (Protocol.debugStep w step).2 = w := by
  unfold Protocol.debugStep Protocol.refuse
  dsimp only
  split
  · split <;> rfl
  · split
    · rfl
    · split <;> rfl
  · rfl

theorem moves_deliverStep (w : World) (e : Envelope) : Moves w (Protocol.deliverStep w e).2 := by
  unfold Protocol.deliverStep
  dsimp only
  split
  · exact moves_deliverTo _ _ _
  · exact moves_deliverLocal _ _

theorem moves_emitTyped (w : World) (p : Payload) : Moves w (Protocol.emitTyped w p).2 := by
  unfold Protocol.emitTyped
  split
  · exact .refl
  · exact moves_emitLocal _ _ _

theorem moves_dispatchStep (w : World) (step : Json) : Moves w (Protocol.dispatchStep w step).2 := by
  unfold Protocol.dispatchStep
  split
  · exact .refl
  · split
    · exact .refl
    · exact moves_dispatch _ _ _ _

/-- The world after registering a subscription: when it came out active, a handle made from it
is bound to `name`. -/
def bindActive (r : Registered × World) (name : String) (mk : Subscription → Handle) : World :=
  match r with
  | (.active s, w) => { w with handles := rebind w.handles name (mk s) }
  | (_, w) => w

end World

namespace Protocol

theorem lookup_of_handleOf {w : World} {step : Json} {h : Handle} (hh : handleOf w step = .ok h) :
    w.handles.lookup (textOf step "sub") = some h := by
  unfold handleOf at hh
  dsimp only at hh
  split at hh
  · next h' hl => cases hh; exact hl
  · cases hh

theorem lookup_of_freshName {w : World} {step : Json} {name : String}
    (hn : freshName w step = .ok name) : w.handles.lookup name = none := by
  unfold freshName at hn
  dsimp only at hn
  split at hn
  · cases hn
  · split at hn
    · cases hn
    · next hsome =>
      cases hn
      exact Option.not_isSome_iff_eq_none.1 hsome

/-- A subscribe step is refused, leaving the world, or registers a recording callback under a
fresh name. -/
theorem subscribeStep_eq (w : World) (step : Json) (abandon : Bool) :
    (subscribeStep w step abandon).2 = w ∨
    ∃ c name b, w.handles.lookup name = none ∧
      (subscribeStep w step abandon).2 = World.bindActive
        ((w.addRecording name (c == .updaterCheck)).2.subscribe c b
          (.record name w.records.size (reactionsOf step)) abandon) name .callback := by
  unfold subscribeStep
  split
  · exact .inl rfl
  · next c _ =>
    split
    · exact .inl rfl
    · next name hname =>
      refine .inr ⟨c, name, if step.field "free" == .bool true then .unnamed else .named (bridgeOf step),
        lookup_of_freshName hname, ?_⟩
      have hr : (w.addRecording name (c == .updaterCheck)).1 = w.records.size := rfl
      dsimp only
      split <;> next hsub => rw [hr] at hsub; rw [hsub]; rfl

/-- A stream step is refused, leaving the world, or registers a stream on a new queue under a
fresh name. -/
theorem streamStep_eq (w : World) (step : Json) :
    (streamStep w step).2 = w ∨
    ∃ c name, w.handles.lookup name = none ∧
      (streamStep w step).2 = World.bindActive
        (w.addQueue.2.subscribe c (.named (bridgeOf step)) (.queue w.queues.size) false) name
        (fun s => .stream s w.queues.size) := by
  unfold streamStep
  split
  · exact .inl rfl
  · next c _ =>
    split
    · exact .inl rfl
    · next name hname =>
      refine .inr ⟨c, name, lookup_of_freshName hname, ?_⟩
      have hq : w.addQueue.1 = w.queues.size := rfl
      dsimp only
      split <;> next hsub => rw [hq] at hsub; rw [hsub]; rfl

/-- A session step runs on the world with the listener calls of the step before cleared. -/
theorem sessionStep_snd (w : World) (step : Json) : (sessionStep w step).2 =
    (runStep { w with deliveries := #[] } (((step.get? "op").bind Json.str?).getD "") step).2 := rfl

/-- The texts that name an op. -/
def Op.names : Op → List String
  | .subscribe => ["subscribe"]
  | .subscribeAbandon => ["subscribe_abandon"]
  | .stream => ["stream"]
  | .next => ["next", "poll"]
  | .cancel => ["cancel"]
  | .state => ["state"]
  | .drop => ["drop"]
  | .emitRaw => ["emit_raw"]
  | .emit => ["emit"]
  | .emitTerminal => ["emit_terminal"]
  | .deliver => ["deliver"]
  | .listenerCount => ["listener_count"]
  | .unlisten => ["unlisten"]
  | .close => ["close"]
  | .isClosed => ["is_closed"]
  | .stats => ["stats"]
  | .hostCounts => ["host_counts"]
  | .dispatch => ["dispatch"]
  | .received => ["received"]
  | .listenRaw => ["listen_raw"]
  | .retire => ["retire"]
  | .debug => ["debug"]

/-- A text is one of the names of the op it is read as. -/
theorem Op.mem_names_of_ofName? {s : String} {o : Op} (h : Op.ofName? s = some o) : s ∈ o.names := by
  unfold Op.ofName? at h
  split at h <;> cases h <;> simp [Op.names]

/-- A step runs the op its text names. -/
theorem runStep_of_ofName? (w : World) {op : String} {o : Op} (step : Json)
    (h : Op.ofName? op = some o) : runStep w op step = runOp w o step := by
  unfold runStep
  rw [h]

/-- A step whose text names no op leaves the world as it was. -/
theorem runStep_of_ofName?_none (w : World) {op : String} (step : Json) (h : Op.ofName? op = none) :
    (runStep w op step).2 = w := by
  unfold runStep
  rw [h]
  rfl

/-- The steps of a session that act on the host behind the bridges: registering a raw listener,
retiring it, and removing a registration by its id. -/
def hostOps : List String := ["listen_raw", "retire", "unlisten"]

/-- The ops that act on the host behind the bridges are those `hostOps` names. -/
theorem mem_hostOps {op : String} {o : Op} (h : Op.ofName? op = some o)
    (ho : o = .listenRaw ∨ o = .retire ∨ o = .unlisten) : op ∈ hostOps := by
  have hname := Op.mem_names_of_ofName? h
  rcases ho with rfl | rfl | rfl <;> simp_all [Op.names, hostOps]

open World in
/-- A step of a session subscribes, opens a stream, acts on the host behind the bridges, or is a
run of moves. -/
theorem runStep_cases (w : World) (op : String) (step : Json) :
    (∃ abandon, (runStep w op step).2 = (subscribeStep w step abandon).2) ∨
    (runStep w op step).2 = (streamStep w step).2 ∨ op ∈ hostOps ∨
    Moves w (runStep w op step).2 := by
  cases hop : Op.ofName? op with
  | none =>
    refine .inr (.inr (.inr ?_))
    rw [runStep_of_ofName?_none w step hop]
  | some o =>
    rw [runStep_of_ofName? w step hop]
    cases o with
    | subscribe => exact .inl ⟨false, rfl⟩
    | subscribeAbandon => exact .inl ⟨true, rfl⟩
    | stream => exact .inr (.inl rfl)
    | listenRaw | retire | unlisten => exact .inr (.inr (.inl (mem_hostOps hop (by simp))))
    | next => exact .inr (.inr (.inr (moves_nextStep w step)))
    | cancel =>
      -- the handle to cancel is looked up by its name
      refine .inr (.inr (.inr ?_))
      simp only [runOp]
      split
      · next h hh => exact .single (.cancelHandle w (lookup_of_handleOf hh))
      · exact .refl
    | state =>
      refine .inr (.inr (.inr ?_))
      simp only [runOp]
      split <;> exact .refl
    | drop => exact .inr (.inr (.inr (.single (.dropHandle w _))))
    | emitRaw =>
      refine .inr (.inr (.inr ?_))
      simp only [runOp]
      split
      · exact .refl
      · split
        · exact moves_deliverStep _ _
        · exact moves_emitLocal _ _ _
    | emit =>
      refine .inr (.inr (.inr ?_))
      simp only [runOp]
      split
      · exact .refl
      · split
        · exact .refl
        · exact moves_emitTyped _ _
        · exact .refl
    | emitTerminal => exact .inr (.inr (.inr (moves_emitTyped _ _)))
    | deliver =>
      refine .inr (.inr (.inr ?_))
      simp only [runOp]
      split
      · exact moves_deliverStep _ _
      · exact .refl
    | listenerCount =>
      refine .inr (.inr (.inr ?_))
      simp only [runOp]
      split
      · exact .refl
      · split
        · exact .refl
        · exact moves_liveCount _ _
    | close =>
      refine .inr (.inr (.inr ?_))
      simp only [runOp]
      split
      · exact .refl
      · exact .single (.closeTable w)
    | isClosed | stats | hostCounts => exact .inr (.inr (.inr .refl))
    | dispatch => exact .inr (.inr (.inr (moves_dispatchStep w step)))
    | received =>
      refine .inr (.inr (.inr ?_))
      simp only [runOp]
      split <;> exact .refl
    | debug =>
      refine .inr (.inr (.inr ?_))
      show Moves w (debugStep w step).2
      rw [debugStep_world]

/-- What the host's own operations do: register a raw listener, retire one, remove a
registration from the host, or refuse. -/
theorem runStep_of_hostOp (w : World) {op : String} (step : Json) (h : op ∈ hostOps) :
    (runStep w op step).2 = (listenRawStep w step).2 ∨
    (∃ l, (runStep w op step).2 = w.retire l) ∨ (runStep w op step).2 = w ∨
    ∃ c id, (runStep w op step).2 = (w.hostUnlisten c id).2 := by
  simp only [hostOps, List.mem_cons, List.not_mem_nil, or_false] at h
  rcases h with rfl | rfl | rfl
  · exact .inl (by rw [runStep_of_ofName? w step rfl]; rfl)
  · -- retiring a raw listener by name
    rw [runStep_of_ofName? w step rfl]
    simp only [runOp]
    split
    · next l _ => exact .inr (.inl ⟨l, rfl⟩)
    · exact .inr (.inr (.inl rfl))
  · -- removing a registration by channel and id
    rw [runStep_of_ofName? w step rfl]
    simp only [runOp]
    split
    · exact .inr (.inr (.inl rfl))
    · next c _ =>
      split
      · next id _ => exact .inr (.inr (.inr ⟨c, id, rfl⟩))
      · exact .inr (.inr (.inl rfl))

end Protocol

end ChannelBridge
