import ChannelBridge.Proofs.Session.Ledger

/-! # What the marks of a session account for

Over a whole session, from the world a host starts in, the marks of the session account for the
world it reaches (`Accounts`):

* each named bridge's counters are what its marks add up to (`Mark.count`);
* each stream's queue holds what its listener decoded, less what the reads took, in order;
* each subscription is marked registered once, each cancellation is of a registered subscription,
  no listener is cancelled twice, and a cancelled listener stays retired;
* every handle's subscription was registered, and every run and read is of a listener or queue
  that was made.

The empty session accounts for the world it starts in (`Accounts.start`), and every step keeps the
account with its marks appended (`Accounts.sessionStep`): a registering step marks the one
subscription it makes, a step of the host's own touches no bridge, handle or queue, and every other
step is a run of moves that its `Ledger` accounts for. `Accounts.of_session` puts the steps of a
session together.

Two facts about the world alone come along: its wiring (`Wired`) and that its active streams have
open queues (`StreamsOpen`), which every step keeps (`StreamsOpen.sessionStep`).
-/

namespace ChannelBridge

namespace Mark

theorem mem_filterMap_subscribedSub {ms : List Mark} {s : Subscription} :
    s ∈ ms.filterMap subscribedSub ↔ .subscribed s ∈ ms := by
  rw [List.mem_filterMap]
  constructor
  · rintro ⟨m, hm, hs⟩
    cases m <;> simp only [subscribedSub, Option.some.injEq, reduceCtorEq] at hs
    exact hs ▸ hm
  · exact fun hm => ⟨_, hm, rfl⟩

theorem mem_filterMap_cancelledSub {ms : List Mark} {s : Subscription} :
    s ∈ ms.filterMap cancelledSub ↔ .cancelled s ∈ ms := by
  rw [List.mem_filterMap]
  constructor
  · rintro ⟨m, hm, hs⟩
    cases m <;> simp only [cancelledSub, Option.some.injEq, reduceCtorEq] at hs
    exact hs ▸ hm
  · exact fun hm => ⟨_, hm, rfl⟩

/-- No read of queue `q` took anything. -/
theorem filterMap_takenFrom_eq_nil {q : Nat} {ms : List Mark} (h : ∀ p, .took q p ∉ ms) :
    ms.filterMap (takenFrom q) = [] := by
  refine List.filterMap_eq_nil_iff.2 fun m hm => ?_
  match m, hm with
  | .took q' p, hm =>
    simp only [takenFrom]
    rw [if_neg fun (e : q' = q) => h p (e ▸ hm)]
  | .subscribed _, _ | .cancelled _, _ | .ran .., _ => rfl

/-- A listener that never ran decoded nothing. -/
theorem filterMap_decodedBy_eq_nil {l : Nat} {c : Channel} {ms : List Mark}
    (h : ∀ h e, .ran l h e ∉ ms) : ms.filterMap (decodedBy l c) = [] := by
  refine List.filterMap_eq_nil_iff.2 fun m hm => ?_
  match m, hm with
  | .ran l' h' e, hm =>
    simp only [decodedBy]
    rw [if_neg fun (e' : l' = l ∧ e.channel = c) => h h' e (e'.1 ▸ hm)]
  | .subscribed _, _ | .cancelled _, _ | .took .., _ => rfl

/-- What one registration adds to a bridge's counters. -/
theorem count_subscribed (name : String) (s : Subscription) :
    count name [.subscribed s] =
      if s.bridge = .named name then ⟨1, 0, 0, 0⟩ else BridgeStats.zero := by
  by_cases hb : s.bridge = .named name <;> simp [count, registers, cancels, delivers, rejects, hb,
    BridgeStats.zero]

end Mark

/-! ## Registering steps and their marks -/

namespace World

theorem bridges_hostRegister (w : World) (c : Channel) (l : Nat) :
    (w.hostRegister c l).2.bridges = w.bridges := by
  unfold hostRegister
  rcases w.host.register c l with ⟨_ | id, host⟩
  · rfl
  · dsimp only
    split <;> rfl

theorem bridges_hostListen {w w' : World} {c : Channel} {l : Nat} {r : Except HostError Nat}
    (h : w.hostListen c l = (r, w')) : w'.bridges = w.bridges := by
  unfold hostListen at h
  have hb := bridges_hostRegister w c l
  rcases hr : w.hostRegister c l with ⟨_ | id, w₁⟩ <;> rw [hr] at h hb <;> cases h <;> exact hb

/-- Registering a subscription counts it on its bridge when it comes out active, and nothing else. -/
theorem stats_subscribe (v : World) (c : Channel) (b : BridgeRef) (sink : Sink) (abandon : Bool)
    (name : String) : (v.subscribe c b sink abandon).2.stats name =
      v.stats name + Mark.count name (Protocol.registeredMarks (v.subscribe c b sink abandon).1) := by
  have hquiet : ∀ u : World, u.bridges = v.bridges → u.stats name = v.stats name + Mark.count name [] :=
    fun u hu => by rw [Mark.count_nil, BridgeStats.add_zero]; exact congrArg (fun bs => (bs.lookup name).getD .zero) hu
  unfold subscribe
  dsimp only [addListener]
  split
  · next e w' hreg =>
    refine hquiet _ ?_
    have hb := bridges_hostRegister { v with listeners := v.listeners.push ⟨true, .typed c b sink⟩ } c
      v.listeners.size
    rw [hreg] at hb
    exact hb
  · next id w' hreg =>
    have hb := bridges_hostRegister { v with listeners := v.listeners.push ⟨true, .typed c b sink⟩ } c
      v.listeners.size
    rw [hreg] at hb
    split
    · exact hquiet _ hb
    · -- the acknowledged registration is counted on its bridge
      show ((w'.setHost w'.host.acknowledge).bump b _).stats name = _
      have hs : (w'.setHost w'.host.acknowledge).stats name = v.stats name :=
        congrArg (fun bs => (bs.lookup name).getD .zero) hb
      simp only [Protocol.registeredMarks, Mark.count_subscribed, Ledger.stats_bump, hs]
      split <;> simp [BridgeStats.add_def, BridgeStats.zero]

/-- Binding a name puts one handle in front of the others. -/
theorem mem_rebind {n k : String} {h h' : Handle} {hs : List (String × Handle)}
    (hm : (n, h) ∈ rebind hs k h') : (n = k ∧ h = h') ∨ (n, h) ∈ hs := by
  rcases List.mem_cons.1 hm with e | hm
  · exact .inl (Prod.mk.inj e)
  · exact .inr (List.mem_filter.1 hm).1

/-- A new queue holds nothing, and the old queues keep their items. -/
@[simp] theorem itemsOf_addQueue (w : World) (q : Nat) : w.addQueue.2.itemsOf q = w.itemsOf q := by
  unfold itemsOf addQueue
  simp only [Array.getElem?_push]
  split
  · next h => simp [h]
  · rfl

end World

namespace Protocol

open World

/-- A subscribe step is refused, with no mark, or registers a recording callback under a fresh
name and marks the subscription when it comes out active. -/
theorem subscribeStep_marks (w : World) (step : Json) (abandon : Bool) :
    ((subscribeStep w step abandon).2 = w ∧ subscribeStepMarks w step abandon = []) ∨
    ∃ c name b, w.handles.lookup name = none ∧
      (subscribeStep w step abandon).2 = World.bindActive
        ((w.addRecording name (c == .updaterCheck)).2.subscribe c b
          (.record name w.records.size (reactionsOf step)) abandon) name .callback ∧
      subscribeStepMarks w step abandon = registeredMarks
        ((w.addRecording name (c == .updaterCheck)).2.subscribe c b
          (.record name w.records.size (reactionsOf step)) abandon).1 := by
  unfold subscribeStep subscribeStepMarks
  cases channelOf step "channel" with
  | error a => exact .inl ⟨rfl, rfl⟩
  | ok c =>
    dsimp only
    cases hname : freshName w step with
    | error a => exact .inl ⟨rfl, rfl⟩
    | ok name =>
      refine .inr ⟨c, name, if step.field "free" == .bool true then .unnamed else .named (bridgeOf step),
        lookup_of_freshName hname, ?_, rfl⟩
      have hr : (w.addRecording name (c == .updaterCheck)).1 = w.records.size := rfl
      dsimp only
      split <;> next hsub => rw [hr] at hsub; rw [hsub]; rfl

/-- A stream step is refused, with no mark, or registers a stream on a new queue under a fresh
name and marks the subscription when it comes out active. -/
theorem streamStep_marks (w : World) (step : Json) :
    ((streamStep w step).2 = w ∧ streamStepMarks w step = []) ∨
    ∃ c name, w.handles.lookup name = none ∧
      (streamStep w step).2 = World.bindActive
        (w.addQueue.2.subscribe c (.named (bridgeOf step)) (.queue w.queues.size) false) name
        (fun s => .stream s w.queues.size) ∧
      streamStepMarks w step = registeredMarks
        (w.addQueue.2.subscribe c (.named (bridgeOf step)) (.queue w.queues.size) false).1 := by
  unfold streamStep streamStepMarks
  cases channelOf step "channel" with
  | error a => exact .inl ⟨rfl, rfl⟩
  | ok c =>
    dsimp only
    cases hname : freshName w step with
    | error a => exact .inl ⟨rfl, rfl⟩
    | ok name =>
      refine .inr ⟨c, name, lookup_of_freshName hname, ?_, rfl⟩
      have hq : w.addQueue.1 = w.queues.size := rfl
      dsimp only
      split <;> next hsub => rw [hq] at hsub; rw [hsub]; rfl

/-- Registering a raw listener touches no handle, queue or bridge. -/
theorem listenRawStep_frame (w : World) (step : Json) :
    (listenRawStep w step).2.handles = w.handles ∧ (listenRawStep w step).2.queues = w.queues ∧
    (listenRawStep w step).2.bridges = w.bridges := by
  unfold listenRawStep
  split
  · exact ⟨rfl, rfl, rfl⟩
  · dsimp only
    split
    · exact ⟨rfl, rfl, rfl⟩
    · split
      all_goals
        next hl =>
        obtain ⟨-, hhandles, hqueues⟩ := hostListen_eq hl
        have hbridges := bridges_hostListen hl
        exact ⟨hhandles, hqueues, hbridges⟩

end Protocol

/-! ## Open streams over a session -/

namespace World

variable {w w' : World}

namespace StreamsOpen

/-- A new listener keeps streams open when, active and queueing, it finds its queue open. -/
theorem push (ho : w.StreamsOpen) {x : Listener} (hl : w'.listeners = w.listeners.push x)
    (hq : w'.queues = w.queues)
    (hx : ∀ {c b q}, x.handler = .typed c b (.queue q) → x.active = true → w.queueClosed q = false) :
    w'.StreamsOpen where
  open_of_active {l c b q} hh hact := by
    rw [queueClosed_congr hq]
    rw [isActive_of_listeners_push hl] at hact
    by_cases hls : l = w.listeners.size
    · -- the new listener
      have hx' : x.handler = .typed c b (.queue q) := by
        simpa [handlerOf, hl, hls] using hh
      rw [if_pos hls] at hact
      exact hx hx' hact
    · rw [if_neg hls] at hact
      have hh' : w.handlerOf l = some (.typed c b (.queue q)) := by
        simpa [handlerOf, hl, Array.getElem?_push, hls] using hh
      exact ho.open_of_active hh' hact

/-- Registering a subscription keeps streams open when a queue it reads is open. -/
theorem subscribe (ho : w.StreamsOpen) (c : Channel) (b : BridgeRef) (sink : Sink) (abandon : Bool)
    (hsink : ∀ {q}, sink = .queue q → w.queueClosed q = false) :
    (w.subscribe c b sink abandon).2.StreamsOpen := by
  obtain ⟨-, hqueues, hout⟩ := subscribe_outcome w c b sink abandon
  obtain ⟨a, hl⟩ : ∃ a, (w.subscribe c b sink abandon).2.listeners =
      w.listeners.push ⟨a, .typed c b sink⟩ := by
    rcases hout with ⟨_, -, -, -, hl⟩ | ⟨_, -, -, -, hl⟩ | ⟨_, -, -, -, hl⟩ <;> exact ⟨_, hl⟩
  exact ho.push hl hqueues fun hx _ => hsink (Handler.typed.inj hx).2.2

/-- Binding a name changes no listener and no queue. -/
theorem bindActive (ho : (r : Registered × World).2.StreamsOpen) (name : String)
    (mk : Subscription → Handle) : (World.bindActive r name mk).StreamsOpen := by
  unfold World.bindActive
  split
  · exact ⟨ho.open_of_active⟩
  · exact ho

theorem subscribeStep (ho : w.StreamsOpen) (step : Json) (abandon : Bool) :
    (Protocol.subscribeStep w step abandon).2.StreamsOpen := by
  rcases Protocol.subscribeStep_eq w step abandon with e | ⟨c, name, b, -, e⟩ <;> rw [e]
  · exact ho
  · -- a recording callback queues nowhere
    have ho₁ : (w.addRecording name (c == .updaterCheck)).2.StreamsOpen := ⟨ho.open_of_active⟩
    exact (ho₁.subscribe c b _ _ fun e => by cases e).bindActive name _

theorem streamStep (ho : w.StreamsOpen) (hw : w.Wired) (step : Json) :
    (Protocol.streamStep w step).2.StreamsOpen := by
  rcases Protocol.streamStep_eq w step with e | ⟨c, name, -, e⟩ <;> rw [e]
  · exact ho
  · -- the stream reads the queue made just before, open and read by no listener yet
    have ho₁ : w.addQueue.2.StreamsOpen := ⟨fun {l c b q} hl hact => by
      have hopen := ho.open_of_active hl hact
      rw [queueClosed_addQueue, if_neg (Nat.ne_of_lt (hw.queue_made hl))]
      exact hopen⟩
    refine (ho₁.subscribe c _ _ false fun e => ?_).bindActive name _
    cases e
    rw [queueClosed_addQueue, if_pos rfl]

/-- A raw listener queues nowhere. -/
theorem listenRawStep (ho : w.StreamsOpen) (step : Json) :
    (Protocol.listenRawStep w step).2.StreamsOpen := by
  unfold Protocol.listenRawStep
  split
  · exact ho
  · dsimp only
    split
    · exact ho
    · split
      all_goals
        next hl =>
        obtain ⟨hlist, -, hqueues⟩ := hostListen_eq hl
        rw [listeners_addListener] at hlist
        exact ho.push hlist hqueues fun hx => by cases hx

/-- Every step of a session, on every host, keeps streams open. -/
theorem runStep (ho : w.StreamsOpen) (hw : w.Wired) (op : String) (step : Json) :
    (Protocol.runStep w op step).2.StreamsOpen := by
  rcases Protocol.runStep_cases w op step with ⟨abandon, e⟩ | e | hop | hmoves
  · rw [e]
    exact ho.subscribeStep step abandon
  · rw [e]
    exact ho.streamStep hw step
  · rcases Protocol.runStep_of_hostOp w step hop with e | ⟨l, e⟩ | e | ⟨c, id, e⟩ <;> rw [e]
    · exact ho.listenRawStep step
    · exact ho.frame (Grows.retire w l) (size_retire w l) fun _ => rfl
    · exact ho
    · exact ho.frame (Grows.of_listeners_eq rfl) rfl fun _ => rfl
  · exact ho.moves hw hmoves

theorem sessionStep (ho : w.StreamsOpen) (hw : w.Wired) (step : Json) :
    (Protocol.sessionStep w step).2.StreamsOpen := by
  rw [Protocol.sessionStep_snd]
  exact (ho.move hw (.clearDeliveries w)).runStep (hw.move (.clearDeliveries w)) _ step

end StreamsOpen

end World

/-! ## The account of a session -/

namespace World

/-- The marks `tr` account for the world `w`: the counters, the streams' queues and the lives of
the subscriptions are what the marks tell. -/
structure Accounts (w : World) (tr : List Mark) : Prop where
  /-- Each named bridge's counters are what its marks add up to. -/
  stats : ∀ name, w.stats name = Mark.count name tr
  /-- A registered subscription's listener was made. -/
  subscribed_made : ∀ {s}, .subscribed s ∈ tr → s.listener < w.listeners.size
  /-- No listener is registered twice. -/
  subscribed_nodup : ((tr.filterMap Mark.subscribedSub).map (·.listener)).Nodup
  /-- Only a registered subscription is cancelled. -/
  cancelled_subscribed : ∀ {s}, .cancelled s ∈ tr → .subscribed s ∈ tr
  /-- A cancelled listener stays retired. -/
  cancelled_retired : ∀ {s}, .cancelled s ∈ tr → w.isActive s.listener = false
  /-- No listener is cancelled twice. -/
  cancelled_nodup : ((tr.filterMap Mark.cancelledSub).map (·.listener)).Nodup
  /-- Every handle's subscription was registered. -/
  handles_subscribed : ∀ {n h}, (n, h) ∈ w.handles → .subscribed h.subscription ∈ tr
  /-- Every run is of a listener that was made. -/
  ran_made : ∀ {l h e}, .ran l h e ∈ tr → l < w.listeners.size
  /-- Every read is of a queue that was made. -/
  took_made : ∀ {q p}, .took q p ∈ tr → q < w.queues.size
  /-- A stream's queue holds what its listener decoded, less what the reads took, in order. -/
  items : ∀ {n s q}, (n, Handle.stream s q) ∈ w.handles →
    tr.filterMap (Mark.takenFrom q) ++ w.itemsOf q =
      tr.filterMap (Mark.decodedBy s.listener s.channel)

namespace Accounts

variable {w w' : World} {tr ms : List Mark}

/-- A session that has not started accounts for the world it starts in. -/
theorem start (host : Host) : Accounts (World.start host) [] where
  stats _ := rfl
  subscribed_made hm := by cases hm
  subscribed_nodup := List.nodup_nil
  cancelled_subscribed hm := by cases hm
  cancelled_retired hm := by cases hm
  cancelled_nodup := List.nodup_nil
  handles_subscribed hm := by cases hm
  ran_made hm := by cases hm
  took_made hm := by cases hm
  items hm := by cases hm

/-- A change that keeps the handles, the queues and the counters, and turns no flag on, keeps the
account. -/
theorem quiet (h : Accounts w tr) (hg : Grows w w') (hhandles : w'.handles = w.handles)
    (hqueues : w'.queues = w.queues) (hstats : ∀ name, w'.stats name = w.stats name) :
    Accounts w' tr where
  stats name := (hstats name).trans (h.stats name)
  subscribed_made hm := Nat.lt_of_lt_of_le (h.subscribed_made hm) hg.size_le
  subscribed_nodup := h.subscribed_nodup
  cancelled_subscribed := h.cancelled_subscribed
  cancelled_retired hm :=
    hg.inactive (h.subscribed_made (h.cancelled_subscribed hm)) (h.cancelled_retired hm)
  cancelled_nodup := h.cancelled_nodup
  handles_subscribed hm := h.handles_subscribed (hhandles ▸ hm)
  ran_made hm := Nat.lt_of_lt_of_le (h.ran_made hm) hg.size_le
  took_made hm := hqueues ▸ h.took_made hm
  items hm := by
    rw [itemsOf_congr hqueues]
    exact h.items (hhandles ▸ hm)

/-- A new queue keeps the account. -/
theorem addQueue (h : Accounts w tr) : Accounts w.addQueue.2 tr where
  stats := h.stats
  subscribed_made := h.subscribed_made
  subscribed_nodup := h.subscribed_nodup
  cancelled_subscribed := h.cancelled_subscribed
  cancelled_retired := h.cancelled_retired
  cancelled_nodup := h.cancelled_nodup
  handles_subscribed := h.handles_subscribed
  ran_made := h.ran_made
  took_made hm := by
    simp only [World.addQueue, Array.size_push]
    exact Nat.lt_succ_of_lt (h.took_made hm)
  items hm := by
    rw [itemsOf_addQueue]
    exact h.items hm

/-- A run of moves keeps the account with its marks appended: its ledger tells what it did to the
counters and the queues, and its runs were of listeners active at its start. -/
theorem ledger (h : Accounts w tr) (hw : w.Wired) (hl : Ledger w ms w') (hruns : RunsHeld w ms) :
    Accounts w' (tr ++ ms) where
  stats name := by rw [hl.stats, h.stats, Mark.count_append]
  subscribed_made hm := by
    rw [(size_moves hl.moves).1]
    rcases List.mem_append.1 hm with hm | hm
    · exact h.subscribed_made hm
    · exact absurd hm (hl.no_subscribed _)
  subscribed_nodup := by
    have hnone : ms.filterMap Mark.subscribedSub = [] :=
      List.filterMap_eq_nil_iff.2 fun m hm => by
        cases m with
        | subscribed s => exact absurd hm (hl.no_subscribed s)
        | _ => rfl
    rw [List.filterMap_append, hnone, List.append_nil]
    exact h.subscribed_nodup
  cancelled_subscribed hm := by
    rcases List.mem_append.1 hm with hm | hm
    · exact List.mem_append_left _ (h.cancelled_subscribed hm)
    · -- a cancellation in the run is of a handle of its start
      obtain ⟨-, n, hd, hmem, rfl⟩ := hl.cancels hm
      exact List.mem_append_left _ (h.handles_subscribed hmem)
  cancelled_retired hm := by
    rcases List.mem_append.1 hm with hm | hm
    · exact (Grows.moves hl.moves).inactive (h.subscribed_made (h.cancelled_subscribed hm))
        (h.cancelled_retired hm)
    · exact hl.retired hm
  cancelled_nodup := by
    rw [List.filterMap_append, List.map_append]
    refine List.nodup_append.2 ⟨h.cancelled_nodup, hl.cancels_nodup, ?_⟩
    -- a listener cancelled before the run is retired at its start, one cancelled in it was active
    rintro _ ha _ hb rfl
    obtain ⟨s, hs, rfl⟩ := List.mem_map.1 ha
    obtain ⟨s', hs', he⟩ := List.mem_map.1 hb
    have hoff := h.cancelled_retired (Mark.mem_filterMap_cancelledSub.1 hs)
    have hon := (hl.cancels (Mark.mem_filterMap_cancelledSub.1 hs')).1
    rw [he, hoff] at hon
    cases hon
  handles_subscribed hm :=
    List.mem_append_left _ (h.handles_subscribed (mem_handles_of_moves hl.moves hm))
  ran_made hm := by
    rw [(size_moves hl.moves).1]
    rcases List.mem_append.1 hm with hm | hm
    · exact h.ran_made hm
    · exact lt_size_of_isActive (hruns _ _ _ hm).1
  took_made hm := by
    rw [(size_moves hl.moves).2]
    rcases List.mem_append.1 hm with hm | hm
    · exact h.took_made hm
    · exact hl.took_made hm
  items hm := by
    have hm₀ := mem_handles_of_moves hl.moves hm
    rw [List.filterMap_append, List.filterMap_append, List.append_assoc,
      hl.items (hw.stream_wired hm₀), ← List.append_assoc, h.items hm₀]

theorem filterMap_append_subscribed {β : Type} (f : Mark → Option β) (tr : List Mark)
    (s : Subscription) (hf : f (.subscribed s) = none) :
    (tr ++ [Mark.subscribed s]).filterMap f = tr.filterMap f := by
  simp [List.filterMap_append, hf]

/-- A registration that came out active, on a new active listener, and a name bound to a handle for
it, keep the account with the registration marked. A stream's handle reads a queue with nothing in
it that no read took from. -/
theorem register (h : Accounts w tr) {w₁ : World} {x : Handler}
    (hl : w₁.listeners = w.listeners.push ⟨true, x⟩) (hhandles : w₁.handles = w.handles)
    (hqueues : w₁.queues = w.queues) {s : Subscription} (hs : s.listener = w.listeners.size)
    (hstats : ∀ name, w₁.stats name = w.stats name + Mark.count name [.subscribed s])
    (name : String) (hd : Handle) (hsub : hd.subscription = s)
    (hitems : ∀ {s' q}, hd = .stream s' q → w.itemsOf q = [] ∧ ∀ p, .took q p ∉ tr) :
    Accounts { w₁ with handles := rebind w₁.handles name hd } (tr ++ [.subscribed s]) := by
  have hg : Grows w { w₁ with handles := rebind w₁.handles name hd } := Grows.of_listeners_push hl
  have hsize : w₁.listeners.size = w.listeners.size + 1 := by rw [hl, Array.size_push]
  -- the new mark is a registration: no cancellation, run or read
  have hold : ∀ {m}, m ∈ tr ++ [.subscribed s] → m ≠ .subscribed s → m ∈ tr := fun hm hne =>
    (List.mem_append.1 hm).resolve_right fun e => hne (List.mem_singleton.1 e)
  refine {
    stats := fun name => (hstats name).trans (by rw [h.stats, Mark.count_append])
    subscribed_made := fun {s'} hm => ?_
    subscribed_nodup := ?_
    cancelled_subscribed := fun hm =>
      List.mem_append_left _ (h.cancelled_subscribed (hold hm (by simp)))
    cancelled_retired := fun hm => ?_
    cancelled_nodup := ?_
    handles_subscribed := fun {n h'} hm => ?_
    ran_made := fun hm => ?_
    took_made := fun hm => ?_
    items := fun {n s' q} hm => ?_ }
  · show s'.listener < w₁.listeners.size
    rw [hsize]
    rcases List.mem_append.1 hm with hm | hm
    · exact Nat.lt_succ_of_lt (h.subscribed_made hm)
    · cases List.mem_singleton.1 hm
      rw [hs]
      exact Nat.lt_succ_self _
  · simp only [List.filterMap_append, List.filterMap_cons, List.filterMap_nil, Mark.subscribedSub,
      List.map_append, List.map_cons, List.map_nil]
    refine List.nodup_append.2 ⟨h.subscribed_nodup, List.nodup_singleton _, ?_⟩
    -- the new listener comes after every registered one
    rintro _ ha _ hb rfl
    obtain ⟨s', hs', rfl⟩ := List.mem_map.1 ha
    have hlt := h.subscribed_made (Mark.mem_filterMap_subscribedSub.1 hs')
    rw [List.mem_singleton.1 hb, hs] at hlt
    exact Nat.lt_irrefl _ hlt
  · have hm₀ := hold hm (by simp)
    exact hg.inactive (h.subscribed_made (h.cancelled_subscribed hm₀)) (h.cancelled_retired hm₀)
  · rw [filterMap_append_subscribed Mark.cancelledSub _ _ rfl]
    exact h.cancelled_nodup
  · rcases mem_rebind hm with ⟨-, rfl⟩ | hm
    · rw [hsub]
      exact List.mem_append_right _ (List.mem_singleton_self _)
    · exact List.mem_append_left _ (h.handles_subscribed (hhandles ▸ hm))
  · exact Nat.lt_of_lt_of_le (h.ran_made (hold hm (by simp))) hg.size_le
  · show _ < w₁.queues.size
    rw [hqueues]
    exact h.took_made (hold hm (by simp))
  · show _ ++ w₁.itemsOf q = _
    rw [filterMap_append_subscribed (Mark.takenFrom q) _ _ rfl,
      filterMap_append_subscribed (Mark.decodedBy s'.listener s'.channel) _ _ rfl, itemsOf_congr hqueues]
    rcases mem_rebind hm with ⟨-, e⟩ | hm
    · -- the new stream: nothing read, nothing queued, nothing decoded by its new listener
      obtain ⟨hempty, hfree⟩ := hitems e.symm
      have hs' : s' = s := by rw [← hsub, ← e]; rfl
      subst hs'
      rw [hempty, List.append_nil]
      have hdecoded : tr.filterMap (Mark.decodedBy s'.listener s'.channel) = [] :=
        Mark.filterMap_decodedBy_eq_nil fun _ _ hr => Nat.lt_irrefl _ (hs ▸ h.ran_made hr)
      rw [Mark.filterMap_takenFrom_eq_nil hfree, hdecoded]
    · exact h.items (hhandles ▸ hm)

/-- Registering a subscription, and binding a name to a handle for it when it comes out active,
keeps the account with the registration marked when it came out active. -/
theorem bindActive {v : World} (h : Accounts v tr) (c : Channel) (b : BridgeRef) (sink : Sink)
    (abandon : Bool) (name : String) (mk : Subscription → Handle) (hmk : ∀ s, (mk s).subscription = s)
    (hstream : ∀ {s s' q}, mk s = .stream s' q → sink = .queue q)
    (hsink : ∀ {q}, sink = .queue q → v.itemsOf q = [] ∧ ∀ p, .took q p ∉ tr) :
    Accounts (World.bindActive (v.subscribe c b sink abandon) name mk)
      (tr ++ Protocol.registeredMarks (v.subscribe c b sink abandon).1) := by
  obtain ⟨hhandles, hqueues, hout⟩ := subscribe_outcome v c b sink abandon
  have hg := Grows.subscribe v c b sink abandon
  have hstats := stats_subscribe v c b sink abandon
  unfold World.bindActive
  split
  · next s w₁ hsub =>
    rw [hsub] at hhandles hqueues hg hstats hout
    rw [hsub]
    dsimp only at hhandles hqueues hg hstats hout ⊢
    -- the active outcome: the subscription is the new listener's
    obtain ⟨id, rfl, hl⟩ : ∃ id, s = ⟨c, id, v.listeners.size, b⟩ ∧
        w₁.listeners = v.listeners.push ⟨true, .typed c b sink⟩ := by
      rcases hout with ⟨_, -, hres, -⟩ | ⟨_, -, hres, -⟩ | ⟨id, -, hres, -, hl⟩
      · cases hres
      · cases hres
      · cases hres
        exact ⟨id, rfl, hl⟩
    exact h.register hl hhandles hqueues rfl hstats name (mk _) (hmk _)
      fun e => hsink (hstream e)
  · next r w₁ hne hsub =>
    rw [hsub] at hhandles hqueues hg hstats
    rw [hsub]
    dsimp only at hhandles hqueues hg hstats ⊢
    -- refused or given up: a retired listener and no mark
    have hnone : Protocol.registeredMarks r = [] := by
      cases r with
      | active s => exact absurd rfl (hne s)
      | _ => rfl
    rw [hnone, List.append_nil]
    refine h.quiet hg hhandles hqueues fun name => ?_
    rw [hstats, hnone, Mark.count_nil, BridgeStats.add_zero]

theorem subscribeStep (h : Accounts w tr) (step : Json) (abandon : Bool) :
    Accounts (Protocol.subscribeStep w step abandon).2 (tr ++ Protocol.subscribeStepMarks w step abandon) := by
  rcases Protocol.subscribeStep_marks w step abandon with ⟨e, em⟩ | ⟨c, name, b, -, e, em⟩
  · rw [e, em, List.append_nil]
    exact h
  · rw [e, em]
    -- a recording callback reads no queue
    have h₁ : Accounts (w.addRecording name (c == .updaterCheck)).2 tr :=
      h.quiet (Grows.of_listeners_eq rfl) rfl rfl fun _ => rfl
    exact h₁.bindActive c b _ abandon name .callback (fun _ => rfl) (fun e => by cases e)
      fun e => by cases e

theorem streamStep (h : Accounts w tr) (step : Json) :
    Accounts (Protocol.streamStep w step).2 (tr ++ Protocol.streamStepMarks w step) := by
  rcases Protocol.streamStep_marks w step with ⟨e, em⟩ | ⟨c, name, -, e, em⟩
  · rw [e, em, List.append_nil]
    exact h
  · rw [e, em]
    -- the stream reads the queue made just before: empty, and no read took from it
    refine h.addQueue.bindActive c _ _ false name _ (fun _ => rfl) (fun e => by cases e; rfl)
      fun e => ?_
    cases e
    refine ⟨by rw [itemsOf_addQueue]; simp [itemsOf], fun p hp => ?_⟩
    exact Nat.lt_irrefl _ (h.took_made hp)

theorem listenRawStep (h : Accounts w tr) (step : Json) :
    Accounts (Protocol.listenRawStep w step).2 tr := by
  refine h.quiet (Grows.listenRawStep w step) ?_ ?_ ?_ <;>
    obtain ⟨hhandles, hqueues, hbridges⟩ := Protocol.listenRawStep_frame w step
  · exact hhandles
  · exact hqueues
  · exact fun name => congrArg (fun bs => (bs.lookup name).getD .zero) hbridges

/-- Every step of a session, on every host, keeps the account with its marks appended. -/
theorem runStep (h : Accounts w tr) (hw : w.Wired) (ho : w.StreamsOpen) (op : String) (step : Json) :
    Accounts (Protocol.runStep w op step).2 (tr ++ Protocol.runStepMarks w op step) := by
  rcases Ledger.runStep_cases hw ho op step with ⟨abandon, e, em⟩ | ⟨e, em⟩ | ⟨hop, em⟩ |
    ⟨hl, hruns⟩
  · rw [e, em]
    exact h.subscribeStep step abandon
  · rw [e, em]
    exact h.streamStep step
  · -- the host's own steps touch no bridge, handle or queue
    rw [em, List.append_nil]
    rcases Protocol.runStep_of_hostOp w step hop with e | ⟨l, e⟩ | e | ⟨c, id, e⟩ <;> rw [e]
    · exact h.listenRawStep step
    · exact h.quiet (Grows.retire w l) rfl rfl fun _ => rfl
    · exact h
    · exact h.quiet (Grows.of_listeners_eq rfl) rfl rfl fun _ => rfl
  · exact h.ledger hw hl hruns

theorem sessionStep (h : Accounts w tr) (hw : w.Wired) (ho : w.StreamsOpen) (step : Json) :
    Accounts (Protocol.sessionStep w step).2 (tr ++ Protocol.sessionStepMarks w step) := by
  rw [Protocol.sessionStep_snd]
  have h₀ : Accounts { w with deliveries := #[] } tr :=
    h.quiet (Grows.of_listeners_eq rfl) rfl rfl fun _ => rfl
  exact h₀.runStep (hw.move (.clearDeliveries w)) (ho.move hw (.clearDeliveries w)) _ step

/-- A run of steps keeps the account, with the marks of each step appended in turn. -/
theorem runSession (h : Accounts w tr) (hw : w.Wired) (ho : w.StreamsOpen) (steps : List Json) :
    Accounts (Protocol.runSession w steps).2 (tr ++ Protocol.sessionMarks w steps) := by
  induction steps generalizing w tr with
  | nil =>
    rw [runSession_snd, Protocol.sessionMarks, List.append_nil]
    exact h
  | cons step rest ih =>
    rw [Protocol.runSession_cons, Protocol.sessionMarks, ← List.append_assoc]
    exact ih (h.sessionStep hw ho step) (hw.sessionStep step) (ho.sessionStep hw step)

end Accounts

theorem streamsOpen_start (host : Host) : (World.start host).StreamsOpen :=
  ⟨fun hl _ => by simp [handlerOf, World.start] at hl⟩

/-- The marks of a session account for the world it reaches, on any host and after any steps. -/
theorem Accounts.of_session (host : Host) (steps : List Json) :
    Accounts (Protocol.runSession (World.start host) steps).2
      (Protocol.sessionMarks (World.start host) steps) := by
  have h := (Accounts.start host).runSession (wired_start host) (streamsOpen_start host) steps
  rwa [List.nil_append] at h

end World

end ChannelBridge
