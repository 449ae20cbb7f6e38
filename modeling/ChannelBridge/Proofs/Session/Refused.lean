import ChannelBridge.Proofs.Session.Unregistered

/-! # A subscribe that registers nothing leaves no trace

A subscribe or a stream the host refuses (a failing host, or a table that was closed) and a
subscribe given up before a delayed host acknowledges it still make a listener, retired at once,
and a recording or a queue for it; the delayed host keeps the registration it stored, under an id
no handle carries. Past that, a later step sees nothing of the call.

* `HostKind`: what kind of host a session runs on is kept by every step.
* `World.subscribe_of_unregistered`, `Protocol.subscribeStep_of_unregistered`,
  `Protocol.streamStep_of_unregistered`: what such a call answers and leaves.
* `Gap.Past`, `World.Shadow.of_past`: the world before the call runs in lockstep with the world
  after it, the gap lying past everything the world held.
* `unregistered_call_unobserved`: over every session before the call and every run of steps after
  it, the call answers with the refusal, makes no handle and counts on no bridge; and every later
  step whose answer is compared answers as it would have without the call, down to its listener
  calls and emit counts, every handle keeps its channel and state, and the host's counters but its
  attempts agree.
-/

namespace ChannelBridge

open Protocol

/-! ## The kind of host -/

/-- A property of hosts kept by registering, acknowledging, removing a registration and replacing
the table: a property of the kind of host a session runs on. -/
structure HostKind (P : Host → Prop) : Prop where
  register : ∀ {h : Host} (c : Channel) (l : Nat), P h → P (h.register c l).2
  acknowledge : ∀ {h : Host}, P h → P h.acknowledge
  unlisten : ∀ {h : Host} (c : Channel) (id : Nat), P h → P (h.unlisten c id).2
  setTable : ∀ {h : Host} (t : Registry), P h → P (h.setTable t)

namespace HostKind

variable {P : Host → Prop} {w : World}

theorem cancel (hk : HostKind P) (s : Subscription) (hw : P w.host) : P (w.cancel s).host := by
  rw [World.host_cancel]
  split
  · exact hk.unlisten _ _ hw
  · exact hw

theorem move (hk : HostKind P) {w' : World} (hmove : World.Move w w') (hw : P w.host) :
    P w'.host := by
  have hcancel : ∀ (v : World) (h : Handle), P v.host → P (v.cancelHandle h).host := by
    intro v h hv
    have hhost : (v.cancelHandle h).host = (v.cancel h.subscription).host := by cases h <;> rfl
    rw [hhost]
    exact hk.cancel _ hv
  cases hmove with
  | dequeue q => rw [(World.dequeue_frame w q).2.2.1]; exact hw
  | nextEvent => exact hk.setTable _ hw
  | prune d => exact hk.setTable _ hw
  | cancelHandle hh => exact hcancel w _ hw
  | dropHandle name =>
    unfold World.dropHandle
    split
    · exact hcancel _ _ hw
    · exact hw
  | closeTable =>
    rw [World.closeTable_eq, World.host_logEvent, World.host_retireAll]
    exact hk.setTable _ hw
  | bump b f => rw [World.host_bump]; exact hw
  | logEvent | deliverCall | recordPayload | enqueue | clearDeliveries => exact hw

theorem moves (hk : HostKind P) {w' : World} (hrun : World.Moves w w') (hw : P w.host) :
    P w'.host :=
  World.Moves.preserves (fun hmove hv => hk.move hmove hv) hrun hw

theorem subscribe (hk : HostKind P) (c : Channel) (b : BridgeRef) (sink : Sink) (abandon : Bool)
    (hw : P w.host) : P (w.subscribe c b sink abandon).2.host := by
  obtain ⟨-, -, hout⟩ := World.subscribe_outcome w c b sink abandon
  rcases hout with ⟨_, -, -, h, -⟩ | ⟨_, -, -, h, -⟩ | ⟨_, -, -, h, -⟩ <;> rw [h]
  · exact hk.register _ _ hw
  · exact hk.register _ _ hw
  · exact hk.acknowledge (hk.register _ _ hw)

theorem listenRawStep (hk : HostKind P) (step : Json) (hw : P w.host) :
    P (listenRawStep w step).2.host := by
  unfold Protocol.listenRawStep
  split
  · exact hw
  · dsimp only
    split
    · exact hw
    · -- the raw listener is registered and acknowledged
      split <;> next hl =>
        rcases (World.host_hostListen hl).2 with h | h <;> rw [World.host_addListener] at h
        · rw [h]; exact hk.register _ _ hw
        · rw [h]; exact hk.acknowledge (hk.register _ _ hw)

theorem runStep (hk : HostKind P) (op : String) (step : Json) (hw : P w.host) :
    P (runStep w op step).2.host := by
  rcases runStep_cases w op step with ⟨abandon, e⟩ | e | hop | hmoves
  · rw [e]
    rcases subscribeStep_eq w step abandon with e | ⟨c, name, b, -, e⟩ <;> rw [e]
    · exact hw
    · rw [World.host_bindActive]
      exact hk.subscribe c b _ abandon hw
  · rw [e]
    rcases streamStep_eq w step with e | ⟨c, name, -, e⟩ <;> rw [e]
    · exact hw
    · rw [World.host_bindActive]
      exact hk.subscribe c _ _ false hw
  · rcases runStep_of_hostOp w step hop with e | ⟨l, e⟩ | e | ⟨c, id, e⟩ <;> rw [e]
    · exact hk.listenRawStep step hw
    · exact hw
    · exact hw
    · exact hk.unlisten _ _ hw
  · exact hk.moves hmoves hw

theorem runSession (hk : HostKind P) (steps : List Json) (hw : P w.host) :
    P (Protocol.runSession w steps).2.host := by
  induction steps generalizing w with
  | nil => exact hw
  | cons step rest ih =>
    rw [runSession_cons]
    exact ih (by rw [sessionStep_snd]; exact hk.runStep _ step hw)

/-- Not broadcasting is a kind of host. -/
theorem notBroadcast : HostKind fun h => ∀ f t, h ≠ .broadcast f t where
  register {h} c l hh := by
    cases h with
    | broadcast f t => exact absurd rfl (hh f t)
    | _ => simp only [Host.register]; (try split) <;> (intro f t he; cases he)
  acknowledge {h} hh := by
    cases h with
    | broadcast f t => exact absurd rfl (hh f t)
    | _ => intro f t he; cases he
  unlisten {h} c id hh := by
    cases h with
    | broadcast f t => exact absurd rfl (hh f t)
    | _ => intro f t he; cases he
  setTable {h} t hh := by
    cases h with
    | broadcast f t => exact absurd rfl (hh f t)
    | _ => intro f t he; cases he

/-- Registering into the local table, or not, is a kind of host. -/
theorem registersLocally (b : Bool) : HostKind fun h => h.registersLocally = b where
  register _ _ hh := by rw [Host.registersLocally_register]; exact hh
  acknowledge hh := by rw [Host.registersLocally_acknowledge]; exact hh
  unlisten _ _ hh := by rw [Host.registersLocally_unlisten]; exact hh
  setTable _ hh := by rw [Host.registersLocally_setTable]; exact hh

end HostKind

/-! ## What the call answers and leaves -/

namespace World

/-- A subscription the host refuses, or one given up before a delayed host acknowledges it, fails
or is given up, and leaves the host after the registration, its listener retired, and nothing else
but the log. -/
theorem subscribe_of_unregistered (w : World) (c : Channel) (b : BridgeRef) (sink : Sink)
    (abandon : Bool)
    (hnot : ∀ id, (w.host.register c w.listeners.size).1 = .ok id →
      (abandon && w.host.acknowledgesLater) = true) :
    (∀ e, (w.host.register c w.listeners.size).1 = .error e →
      (w.subscribe c b sink abandon).1 = .failed e) ∧
    (∀ id, (w.host.register c w.listeners.size).1 = .ok id →
      (w.subscribe c b sink abandon).1 = .abandoned) ∧
    (w.subscribe c b sink abandon).2 =
      { w with
        host := (w.host.register c w.listeners.size).2
        listeners := w.listeners.push ⟨false, .typed c b sink⟩
        events := (w.subscribe c b sink abandon).2.events } := by
  have hlater : ∀ host : Host, (w.host.register c w.listeners.size).2 = host →
      host.acknowledgesLater = w.host.acknowledgesLater := by
    intro host hh
    rw [← hh]
    cases w.host <;> simp only [Host.register] <;> (try split) <;> rfl
  unfold World.subscribe World.hostRegister
  dsimp only [World.addListener]
  rcases hr : w.host.register c w.listeners.size with ⟨_ | id, host⟩
  · dsimp only
    refine ⟨fun e he => by cases he; rfl, fun id hid => (by cases hid), ?_⟩
    simp only [World.setHost, World.logEvent, World.retire, modify_push_size]
  · rw [hr] at hnot
    have hab := hnot id rfl
    have hl := hlater host (by rw [hr])
    dsimp only
    -- the host a registration leaves acknowledges later, as the host before it did
    have hhost : ∀ v : World, v.host = host → (abandon && v.host.acknowledgesLater) = true :=
      fun v hv => by rw [hv, hl]; exact hab
    rw [if_pos (hhost _ (by split <;> rfl))]
    refine ⟨fun e he => (by cases he), fun id' _ => rfl, ?_⟩
    split <;> simp only [World.setHost, World.logEvent, World.retire, modify_push_size]

end World

namespace Protocol

/-- The answer to a subscribe that registered nothing: the host's refusal, or that it was given
up. -/
def unregisteredAnswer (c : Channel) : Except HostError Nat → Json
  | .error e => registrationAnswer c e
  | .ok _ => Json.object [("abandoned", .bool true)]

/-- A subscribe on a channel under a fresh name that registers nothing answers so and leaves the
world its registration left, after a fresh recording. -/
theorem subscribeStep_of_unregistered {w : World} {step : Json} {abandon : Bool} {c : Channel}
    {name : String} (hc : channelOf step "channel" = .ok c) (hname : freshName w step = .ok name)
    (hnot : ∀ id, (w.host.register c w.listeners.size).1 = .ok id →
      (abandon && w.host.acknowledgesLater) = true) :
    (subscribeStep w step abandon).1 = unregisteredAnswer c (w.host.register c w.listeners.size).1 ∧
    ∃ b, (subscribeStep w step abandon).2 =
      ((w.addRecording name (c == .updaterCheck)).2.subscribe c b
        (.record name w.records.size (reactionsOf step)) abandon).2 := by
  unfold subscribeStep
  rw [hc, hname]
  dsimp only
  generalize (if step.field "free" == .bool true then BridgeRef.unnamed else .named (bridgeOf step)) = b
  have hr : (w.addRecording name (c == .updaterCheck)).1 = w.records.size := rfl
  rw [hr]
  obtain ⟨hfailed, habandoned, -⟩ := World.subscribe_of_unregistered
    (w.addRecording name (c == .updaterCheck)).2 c b (.record name w.records.size (reactionsOf step))
    abandon hnot
  rcases hsub : (w.addRecording name (c == .updaterCheck)).2.subscribe c b
    (.record name w.records.size (reactionsOf step)) abandon with ⟨x, u⟩
  rw [hsub] at hfailed habandoned
  -- the subscription failed as the host did, or was given up
  rcases hreg : (w.host.register c w.listeners.size).1 with e | id
  · obtain rfl : x = .failed e := hfailed e hreg
    exact ⟨rfl, b, by rw [hsub]⟩
  · obtain rfl : x = .abandoned := habandoned id hreg
    exact ⟨rfl, b, by rw [hsub]⟩

/-- A stream on a channel under a fresh name that the host refuses answers with the refusal and
leaves the world its registration left, after a fresh queue. -/
theorem streamStep_of_unregistered {w : World} {step : Json} {c : Channel} {name : String}
    (hc : channelOf step "channel" = .ok c) (hname : freshName w step = .ok name)
    (hrefused : ∀ id, (w.host.register c w.listeners.size).1 ≠ .ok id) :
    (streamStep w step).1 = unregisteredAnswer c (w.host.register c w.listeners.size).1 ∧
    (streamStep w step).2 =
      (w.addQueue.2.subscribe c (.named (bridgeOf step)) (.queue w.queues.size) false).2 := by
  unfold streamStep
  rw [hc, hname]
  dsimp only
  have hq : w.addQueue.1 = w.queues.size := rfl
  rw [hq]
  obtain ⟨hfailed, -, -⟩ := World.subscribe_of_unregistered w.addQueue.2 c (.named (bridgeOf step))
    (.queue w.queues.size) false fun id h => absurd h (hrefused id)
  rcases hsub : w.addQueue.2.subscribe c (.named (bridgeOf step)) (.queue w.queues.size) false with
    ⟨x, u⟩
  rw [hsub] at hfailed
  rcases hreg : (w.host.register c w.listeners.size).1 with e | id
  · obtain rfl : x = .failed e := hfailed e hreg
    exact ⟨rfl, rfl⟩
  · exact absurd hreg (hrefused id)

end Protocol

/-! ## The gap past everything a world holds -/

namespace Gapped

variable {α : Type} {f : α → α} {xs : Array α}

/-- An element added at the end is a gap there, over a change that keeps every element. -/
theorem push_end (hf : ∀ (i : Nat) a, xs[i]? = some a → f a = a) (y : α) :
    Gapped (some xs.size) f xs (xs.push y) where
  gap_le q hq := by cases hq; exact Nat.le_refl _
  size_eq := by simp [skip]
  get i := by
    rw [Array.getElem?_push]
    by_cases hi : i < xs.size
    · simp only [skip, if_pos hi, if_neg (Nat.ne_of_lt hi)]
      cases hx : xs[i]? with
      | none => rfl
      | some a => rw [Option.map_some, hf i a hx]
    · simp only [skip, if_neg hi, if_neg (show i + 1 ≠ xs.size by omega)]
      rw [Array.getElem?_eq_none (by omega), Array.getElem?_eq_none (by omega)]
      rfl

/-- Without a gap, an array is gapped against itself. -/
theorem refl_none : Gapped none id xs xs where
  gap_le q hq := by cases hq
  size_eq := rfl
  get i := by simp

end Gapped

/-- The gap a call leaves in a world: its listener, recording and queue come after every one the
world holds, and the id it skips after every one issued. -/
structure Gap.Past (g : Gap) (w : World) : Prop where
  listener : g.listener = w.listeners.size
  record : ∀ r, g.record = some r → r = w.records.size
  queue : ∀ q, g.queue = some q → q = w.queues.size
  id : ∀ k, g.id = some k → w.host.table.registrations.count.toNat < k

namespace Gap.Past

variable {g : Gap} {w : World}

theorem atListener_eq (hp : g.Past w) {l : Nat} (hl : l < w.listeners.size) : g.atListener l = l :=
  g.atListener_of_le (hp.listener ▸ hl)

theorem atRecord_eq (hp : g.Past w) {r : Nat} (hr : r < w.records.size) : g.atRecord r = r :=
  skip_of_lt fun q hq => by rw [hp.record q hq]; exact hr

theorem atQueue_eq (hp : g.Past w) {q : Nat} (hq : q < w.queues.size) : g.atQueue q = q :=
  skip_of_lt fun q' hq' => by rw [hp.queue q' hq']; exact hq

theorem atId_eq (hp : g.Past w) {i : Nat} (hi : i ≤ w.host.table.registrations.count.toNat) :
    g.atId i = i :=
  skip_of_lt fun k hk => Nat.lt_of_le_of_lt hi (hp.id k hk)

/-- With the ids issued, or none skipped, every id the world knows stays. -/
theorem atId_of_issued (hp : g.Past w) (hi : g.id ≠ none → w.Issued) {i : Nat}
    (hissued : w.Issued → i ≤ w.host.table.registrations.count.toNat) : g.atId i = i := by
  cases hg : g.id with
  | none => exact g.atId_of_none hg i
  | some k => exact hp.atId_eq (hissued (hi (by simp [hg])))

/-- Every listener of a grounded, wired world is its own moved copy. -/
theorem listener_shift (hp : g.Past w) (hg : w.Grounded) (hw : w.Wired) {l : Nat} {x : Listener}
    (hx : w.listeners[l]? = some x) : x.shift g = x := by
  have hh : w.handlerOf l = some x.handler := by simp [World.handlerOf, hx]
  obtain ⟨active, handler⟩ := x
  cases handler with
  | typed c b sink =>
    cases sink with
    | record n r rs =>
      simp [Listener.shift, Handler.shift, Sink.shift, hp.atRecord_eq (hg.record_made hh)]
    | queue q => simp [Listener.shift, Handler.shift, Sink.shift, hp.atQueue_eq (hw.queue_made hh)]
  | raw n => rfl

/-- Every handle of a wired world is its own moved copy. -/
theorem handle_shift (hp : g.Past w) (hw : w.Wired) (hi : g.id ≠ none → w.Issued) {n : String}
    {h : Handle} (hm : (n, h) ∈ w.handles) : h.shift g = h := by
  have hl := hp.atListener_eq (hw.lt_size hm)
  have hid := hp.atId_of_issued hi fun hi => hi.handle_issued hm
  cases h with
  | callback s =>
    simp only [Handle.subscription] at hl hid
    simp [Handle.shift, Subscription.shift, hl, hid]
  | stream s q =>
    have hq := hp.atQueue_eq (hw.queue_made (hw.stream_wired hm))
    simp only [Handle.subscription] at hl hid
    simp [Handle.shift, Subscription.shift, hl, hid, hq]

/-- Every registration a grounded world's host holds is its own moved copy, off the gap. -/
theorem entry_shift (hp : g.Past w) (hg : w.Grounded) (hi : g.id ≠ none → w.Issued)
    (hlocal : ∀ f t, w.host ≠ .broadcast f t) {c : Channel} {r : Registration}
    (hr : r ∈ w.host.table.entries c) : r.shift g = r ∧ r.listener ≠ g.listener := by
  have hheld : r.listener ∈ w.host.held := by
    have hmem : r.listener ∈ w.host.table.listeners := Registry.mem_listeners.2 ⟨c, r, hr, rfl⟩
    cases hh : w.host with
    | broadcast f t => exact absurd hh (hlocal f t)
    | _ => rw [hh] at hmem; exact hmem
  have hlt := hg.held_made hheld
  have hid := hp.atId_of_issued hi fun hi => hi.entry_issued hr
  refine ⟨?_, by rw [hp.listener]; exact Nat.ne_of_lt hlt⟩
  simp [Registration.shift, hp.atListener_eq hlt, hid]

end Gap.Past

/-! ## The world after the call, in lockstep with the world before it -/

namespace Registry.Shadow

variable {g : Gap} {t : Registry}

/-- A table is in lockstep with itself past a gap that holds none of its listeners and skips no id,
when each of its registrations is its own moved copy. -/
theorem refl_of_past (hid : g.id = none)
    (hpast : ∀ {c r}, r ∈ t.entries c → r.shift g = r ∧ r.listener ≠ g.listener) :
    Registry.Shadow g t t where
  closed := rfl
  events := rfl
  entries c := by
    rw [List.filter_eq_self.2 fun r hr => bne_iff_ne.2 (hpast hr).2]
    exact ((List.map_congr_left fun r hr => (hpast hr).1).trans (List.map_id _)).symm
  gap_only hr hl := absurd hl (hpast hr).2
  counter _ := rfl
  counter_gap k hk := by rw [hid] at hk; cases hk

/-- A table that stored a registration of the gap's listener, under the id the gap skips, is in
lockstep with the table before. -/
theorem listen_gap {t' : Registry} {c : Channel} {k : Nat} (hid : g.id = some k)
    (hl : t.listen c g.listener = some (k, t')) (hlt : t.registrations.count.toNat < 2 ^ 64 - 1)
    (hpast : ∀ {c r}, r ∈ t.entries c → r.shift g = r ∧ r.listener ≠ g.listener) :
    Registry.Shadow g t t' where
  closed := (listen_frame hl).1
  events := (listen_frame hl).2
  entries d := by
    -- the stored registration is the gap's; the others are their own moved copies
    have hold : ∀ l : List Registration, (∀ r ∈ l, r.shift g = r ∧ r.listener ≠ g.listener) →
        l.filter (fun r => r.listener != g.listener) = l.map (Registration.shift g) := fun l hl => by
      rw [List.filter_eq_self.2 fun r hr => bne_iff_ne.2 (hl r hr).2]
      exact ((List.map_congr_left fun r hr => (hl r hr).1).trans (List.map_id _)).symm
    rw [entries_listen hl]
    split
    · next hd =>
      subst hd
      rw [List.filter_append, hold _ fun r hr => hpast hr]
      simp
    · exact hold _ fun r hr => hpast hr
  gap_only {d r} hr hrl i := by
    rw [entries_listen hl] at hr
    split at hr
    · rcases List.mem_append.1 hr with hr | hr
      · exact absurd hrl (hpast hr).2
      · rw [List.mem_singleton.1 hr]
        show skip g.id i ≠ k
        rw [hid]
        exact skip_ne k i
    · exact absurd hrl (hpast hr).2
  counter h := by rw [hid] at h; cases h
  counter_gap k' hk' := by
    rw [hid] at hk'
    cases hk'
    obtain ⟨hk, hcount, -⟩ := listen_issued hl hlt
    exact ⟨Nat.le_of_eq hk, hcount⟩

end Registry.Shadow

namespace Host.Shadow

variable {g : Gap} {h h' : Host}

/-- A host in lockstep with itself after registering the gap's listener, when the gap skips the id
the registration was given, if any. -/
theorem register_gap (hlocal : ∀ f t, h ≠ .broadcast f t) (c : Channel)
    (hid : g.id = (h.register c g.listener).1.toOption)
    (hlt : h.table.registrations.count.toNat < 2 ^ 64 - 1)
    (hpast : ∀ {c r}, r ∈ h.table.entries c → r.shift g = r ∧ r.listener ≠ g.listener) :
    Host.Shadow g h (h.register c g.listener).2 := by
  cases h with
  | broadcast f t => exact absurd rfl (hlocal f t)
  | failing r a b t => exact .failing (Registry.Shadow.refl_of_past hid hpast)
  | «local» t | counting t _ _ _ | delayed t _ =>
    -- a refusal of the table skips no id; a stored registration skips its own
    simp only [Host.register] at hid ⊢
    cases hl : t.listen c g.listener with
    | none =>
      rw [hl] at hid
      constructor
      exact Registry.Shadow.refl_of_past hid hpast
    | some p =>
      obtain ⟨k, t'⟩ := p
      rw [hl] at hid
      constructor
      exact Registry.Shadow.listen_gap hid hl hlt hpast

/-- The host's counters, apart from its attempts, agree between hosts in lockstep. -/
theorem lookup_counts (hs : Host.Shadow g h h') {k : String} (hk : k ∉ ["attempts", "listens"]) :
    h'.counts.lookup k = h.counts.lookup k := by
  simp only [List.mem_cons, List.not_mem_nil, or_false, not_or] at hk
  have ha : (k == "attempts") = false := beq_eq_false_iff_ne.2 hk.1
  have hl : (k == "listens") = false := beq_eq_false_iff_ne.2 hk.2
  cases hs <;> simp [Host.counts, List.lookup_cons, ha, hl]

end Host.Shadow

namespace World.Shadow

variable {g : Gap} {w w' : World}

/-- The world before a call that registered nothing is in lockstep with the world after it, the gap
lying past everything the world held: the call registered the gap's listener, which it retired, and
added a recording or a queue at the gap, and nothing else. -/
theorem of_past (hp : g.Past w) (hg : w.Grounded) (hw : w.Wired) (hi : g.id ≠ none → w.Issued)
    (hlocal : ∀ f t, w.host ≠ .broadcast f t) (c : Channel)
    (hid : g.id = (w.host.register c g.listener).1.toOption)
    (hlt : w.host.table.registrations.count.toNat < 2 ^ 64 - 1)
    (hhost : w'.host = (w.host.register c g.listener).2) {x : Handler}
    (hlisteners : w'.listeners = w.listeners.push ⟨false, x⟩) (hbridges : w'.bridges = w.bridges)
    (hhandles : w'.handles = w.handles) (hraws : w'.raws = w.raws)
    (hrecords : Gapped g.record id w.records w'.records)
    (hqueues : Gapped g.queue id w.queues w'.queues) (hdeliveries : w'.deliveries = w.deliveries) :
    Shadow g w w' where
  host := by
    rw [hhost]
    exact Host.Shadow.register_gap hlocal c hid hlt (hp.entry_shift hg hi hlocal)
  listeners := by
    rw [hlisteners, hp.listener]
    exact Gapped.push_end (fun _ _ hx => hp.listener_shift hg hw hx) _
  gap_retired := by simp [World.isActive, hlisteners, hp.listener]
  bridges := hbridges
  handles := by
    rw [hhandles]
    refine ((List.map_congr_left fun p hm => ?_).trans (List.map_id _)).symm
    obtain ⟨n, h⟩ := p
    simp [hp.handle_shift hw hi hm]
  raws := by
    rw [hraws]
    refine ((List.map_congr_left fun p hm => ?_).trans (List.map_id _)).symm
    obtain ⟨n, l⟩ := p
    simp [hp.atListener_eq (hg.raw_made hm)]
  records := hrecords
  queues := hqueues
  deliveries := hdeliveries

end World.Shadow

/-! ## Runs of a session -/

/-- A registration a host refuses leaves its table as it was. -/
theorem Host.table_register_of_error {h : Host} {c : Channel} {l : Nat} {e : HostError}
    (hr : (h.register c l).1 = .error e) : (h.register c l).2.table = h.table := by
  cases h with
  | failing r a b t => rfl
  | broadcast f t => simp [Host.register] at hr
  | «local» t | counting t _ _ _ | delayed t _ =>
    simp only [Host.register] at hr ⊢
    cases hl : t.listen c l with
    | none => rfl
    | some p => rw [hl] at hr; cases hr

namespace World

/-- The channel of the handle named `name` and whether it is active. -/
def handleState (w : World) (name : String) : Option (Channel × Bool) :=
  (w.handles.lookup name).map fun h => (h.subscription.channel, w.isActive h.subscription.listener)

theorem Shadow.handleState {g : Gap} {w w' : World} (hs : Shadow g w w') (name : String) :
    w'.handleState name = w.handleState name := by
  unfold World.handleState
  rw [hs.lookup_handles]
  cases w.handles.lookup name <;> simp [hs.isActive]

/-- A session on a host that registers locally and holds nothing starts with its ids issued. -/
theorem Issued.start {host : Host} (hlocal : host.registersLocally = true) (hheld : host.held = []) :
    (World.start host).Issued where
  registersLocally := hlocal
  entry_issued {c r} hr := by
    -- such a host holds its table's listeners, and there are none
    have hmem : r.listener ∈ host.table.listeners := Registry.mem_listeners.2 ⟨c, r, hr, rfl⟩
    have hlisteners : host.table.listeners = [] := by
      cases host <;> simp_all [Host.registersLocally, Host.held]
    rw [hlisteners] at hmem
    cases hmem
  handle_issued hm := by cases hm

theorem count_runSession_le (w : World) (steps : List Json) :
    (runSession w steps).2.host.table.registrations.count.toNat ≤
      w.host.table.registrations.count.toNat + steps.length := by
  induction steps generalizing w with
  | nil => exact Nat.le_refl _
  | cons step rest ih =>
    rw [runSession_cons, List.length_cons]
    have hstep := count_sessionStep_le w step
    have hrest := ih (sessionStep w step).2
    omega

/-- A run of steps with room in the counter for an id per step keeps the ids issued. -/
theorem Issued.runSession {w : World} (hi : w.Issued) (steps : List Json)
    (hroom : w.host.table.registrations.count.toNat + steps.length < 2 ^ 64 - 1) :
    (Protocol.runSession w steps).2.Issued := by
  induction steps generalizing w with
  | nil => exact hi
  | cons step rest ih =>
    rw [runSession_cons]
    simp only [List.length_cons] at hroom
    have hle := count_sessionStep_le w step
    exact ih (hi.sessionStep (by omega) step) (by omega)

end World

namespace Protocol

/-- A step reads nothing of the listener calls of the step before. -/
theorem sessionStep_clear (w : World) (step : Json) :
    sessionStep { w with deliveries := #[] } step = sessionStep w step := rfl

/-- Runs from two worlds that differ only in their listener calls end so too. -/
theorem runSession_clear (w : World) (steps : List Json) :
    { (runSession { w with deliveries := #[] } steps).2 with deliveries := #[] } =
      { (runSession w steps).2 with deliveries := #[] } := by
  cases steps with
  | nil => rfl
  | cons step rest => rw [runSession_cons, runSession_cons, sessionStep_clear]

theorem sessionStep_congr {w w' : World} (h : { w with deliveries := #[] } = { w' with deliveries := #[] })
    (step : Json) : sessionStep w step = sessionStep w' step := by
  rw [← sessionStep_clear w, ← sessionStep_clear w', h]

end Protocol

/-! ## The call and the session after it -/

namespace World.Shadow

variable {v : World}

/-- The id a host that registers locally issues is past every id it issued before. -/
theorem count_lt_of_register_ok (hi : v.Issued)
    (hlt : v.host.table.registrations.count.toNat < 2 ^ 64 - 1) {c : Channel} {l k : Nat}
    (hr : (v.host.register c l).1 = .ok k) : v.host.table.registrations.count.toNat < k := by
  obtain ⟨hk, -, -⟩ := Registry.listen_issued (Host.listen_of_register_ok hi.registersLocally hr) hlt
  omega

/-- A subscribe or stream on a fresh name that registers nothing answers so, makes no handle, and
leaves a world in lockstep with the world before it, the gap skipping the id the host issued, if
any. -/
theorem of_unregistered_call {call : Json} {c : Channel} {name : String} (hg : v.Grounded)
    (hw : v.Wired) (hlocal : ∀ f t, v.host ≠ .broadcast f t)
    (hlt : v.host.table.registrations.count.toNat < 2 ^ 64 - 1)
    (hcall : opOf call = "subscribe" ∨ opOf call = "subscribe_abandon" ∨ opOf call = "stream")
    (hc : channelOf call "channel" = .ok c) (hname : Protocol.freshName v call = .ok name)
    (hnot : ∀ id, (v.host.register c v.listeners.size).1 = .ok id →
      opOf call = "subscribe_abandon" ∧ v.host.acknowledgesLater = true)
    (hi : ∀ id, (v.host.register c v.listeners.size).1 = .ok id → v.Issued) :
    (Protocol.runStep v (opOf call) call).1 = unregisteredAnswer c (v.host.register c v.listeners.size).1 ∧
    (Protocol.runStep v (opOf call) call).2.handles = v.handles ∧
    (Protocol.runStep v (opOf call) call).2.host = (v.host.register c v.listeners.size).2 ∧
    ∃ g : Gap, g.id = (v.host.register c v.listeners.size).1.toOption ∧
      Shadow g v (Protocol.runStep v (opOf call) call).2 := by
  -- the id the call skips was issued past every other
  have hissued : ∀ {g : Gap}, g.id = (v.host.register c v.listeners.size).1.toOption →
      (g.id ≠ none → v.Issued) ∧ ∀ k, g.id = some k → v.host.table.registrations.count.toNat < k := by
    intro g hid
    rw [hid]
    cases hr : (v.host.register c v.listeners.size).1 with
    | error e => exact ⟨fun h => absurd rfl h, fun k hk => by cases hk⟩
    | ok id => exact ⟨fun _ => hi id hr, fun k hk => by cases hk; exact count_lt_of_register_ok (hi id hr) hlt hr⟩
  -- a subscribe, given up or not, makes a recording at the gap
  have hsubscribe : ∀ abandon : Bool,
      Protocol.runStep v (opOf call) call = Protocol.subscribeStep v call abandon →
      (∀ id, (v.host.register c v.listeners.size).1 = .ok id →
        (abandon && v.host.acknowledgesLater) = true) →
      (Protocol.runStep v (opOf call) call).1 =
        unregisteredAnswer c (v.host.register c v.listeners.size).1 ∧
      (Protocol.runStep v (opOf call) call).2.handles = v.handles ∧
      (Protocol.runStep v (opOf call) call).2.host = (v.host.register c v.listeners.size).2 ∧
      ∃ g : Gap, g.id = (v.host.register c v.listeners.size).1.toOption ∧
        Shadow g v (Protocol.runStep v (opOf call) call).2 := by
    intro abandon hrun hnot'
    obtain ⟨hanswer, b, hworld⟩ := subscribeStep_of_unregistered hc hname hnot'
    obtain ⟨-, -, hsub⟩ := World.subscribe_of_unregistered (v.addRecording name (c == .updaterCheck)).2
      c b (.record name v.records.size (reactionsOf call)) abandon hnot'
    rw [hrun, hanswer, hworld, hsub]
    let g : Gap := ⟨v.listeners.size, some v.records.size, none,
      (v.host.register c v.listeners.size).1.toOption⟩
    obtain ⟨hi', hpast⟩ := @hissued g rfl
    refine ⟨rfl, rfl, rfl, g, rfl, ?_⟩
    exact of_past ⟨rfl, fun r hr => (by cases hr; rfl), fun q hq => (by cases hq), hpast⟩ hg hw hi' hlocal
      c rfl hlt rfl rfl rfl rfl rfl (Gapped.push_end (fun _ _ _ => rfl) _) Gapped.refl_none rfl
  rcases hcall with hop | hop | hop
  · refine hsubscribe false (by rw [hop, runStep_of_ofName? v call rfl]; rfl) fun id h => ?_
    exact absurd (hnot id h).1 (by rw [hop]; decide)
  · refine hsubscribe true (by rw [hop, runStep_of_ofName? v call rfl]; rfl) fun id h => ?_
    rw [(hnot id h).2]
    rfl
  · -- a stream the host refuses makes a queue at the gap
    have hrefused : ∀ id, (v.host.register c v.listeners.size).1 ≠ .ok id :=
      fun id h => absurd (hnot id h).1 (by rw [hop]; decide)
    obtain ⟨hanswer, hworld⟩ := streamStep_of_unregistered hc hname hrefused
    obtain ⟨-, -, hsub⟩ := World.subscribe_of_unregistered v.addQueue.2 c (.named (bridgeOf call))
      (.queue v.queues.size) false fun id h => absurd h (hrefused id)
    have hrun : Protocol.runStep v (opOf call) call = Protocol.streamStep v call := by
      rw [hop, runStep_of_ofName? v call rfl]
      rfl
    rw [hrun, hanswer, hworld, hsub]
    let g : Gap := ⟨v.listeners.size, none, some v.queues.size,
      (v.host.register c v.listeners.size).1.toOption⟩
    obtain ⟨hi', hpast⟩ := @hissued g rfl
    refine ⟨rfl, rfl, rfl, g, rfl, ?_⟩
    exact of_past ⟨rfl, fun r hr => (by cases hr), fun q hq => (by cases hq; rfl), hpast⟩ hg hw hi' hlocal
      c rfl hlt rfl rfl rfl rfl rfl Gapped.refl_none (Gapped.push_end (fun _ _ _ => rfl) _) rfl

end World.Shadow

/-! ## No trace -/

/-- A subscribe or stream the host refuses, and a subscribe given up before a delayed host
acknowledges it, leave no trace a later step sees. Over every session before the call, on a host
that does not broadcast and holds nothing at the start: the call answers with the host's refusal,
or that it was given up, with no listener call; it makes no handle and counts on no bridge; and a
refusal leaves the host's table as it was. Over every run of steps after it, each given with the
registration id past the one the call issued, if any, moved up by one: every later step whose
answers are compared answers as it would have without the call, its listener calls and emit counts
included; every handle has the channel and state it would have; and the host's counters, but its
attempts and listens, are as they would be. -/
theorem unregistered_call_unobserved {host : Host} {before after : List Json} {call next : Json}
    {w : World} {c : Channel} {name : String}
    (hlocal : ∀ f t, host ≠ .broadcast f t) (hheld : host.held = [])
    (hroom : host.table.registrations.count.toNat + before.length + after.length + 1 < 2 ^ 64 - 1)
    (hw : (runSession (World.start host) before).2 = w)
    (hcall : opOf call = "subscribe" ∨ opOf call = "subscribe_abandon" ∨ opOf call = "stream")
    (hc : channelOf call "channel" = .ok c) (hname : freshName w call = .ok name)
    (hnot : ∀ id, (w.host.register c w.listeners.size).1 = .ok id →
      opOf call = "subscribe_abandon" ∧ w.host.acknowledgesLater = true) :
    let issued := (w.host.register c w.listeners.size).1
    let later := (runSession w after).2
    let later' := (runSession (sessionStep w call).2 (after.map (renumberStep issued.toOption))).2
    (sessionStep w call).1 = withMember (unregisteredAnswer c issued) "deliveries" (.arr []) ∧
    (sessionStep w call).2.handles = w.handles ∧
    (∀ b, (sessionStep w call).2.stats b = w.stats b) ∧
    (∀ e, issued = .error e → (sessionStep w call).2.host.table = w.host.table) ∧
    (Comparable issued.toOption (opOf next) →
      (sessionStep later' (renumberStep issued.toOption next)).1 = (sessionStep later next).1) ∧
    (∀ n, later'.handleState n = later.handleState n) ∧
    (∀ k, k ∉ ["attempts", "listens"] → later'.host.counts.lookup k = later.host.counts.lookup k) := by
  intro issued later later'
  -- what holds of every world a session reaches
  have hg : w.Grounded := hw ▸ (World.Grounded.start hheld).runSession before
  have hwired : w.Wired := hw ▸ (World.wired_start host).runSession before
  have hlocal' : ∀ f t, w.host ≠ .broadcast f t := hw ▸ HostKind.notBroadcast.runSession before hlocal
  have hcount : w.host.table.registrations.count.toNat ≤
      host.table.registrations.count.toNat + before.length := hw ▸ World.count_runSession_le _ before
  -- only a delayed host issues an id here, and it registered locally from the start
  have hi : ∀ id, issued = .ok id → w.Issued := by
    intro id hid
    have hreg : w.host.registersLocally = true := by
      have hlater := (hnot id hid).2
      cases hh : w.host <;> simp_all [Host.acknowledgesLater, Host.registersLocally]
    have hstart : host.registersLocally = true := by
      have hkind := (HostKind.registersLocally host.registersLocally).runSession before
        (show (World.start host).host.registersLocally = host.registersLocally from rfl)
      rw [hw, hreg] at hkind
      exact hkind.symm
    rw [← hw]
    exact (World.Issued.start hstart hheld).runSession before
      (show host.table.registrations.count.toNat + before.length < 2 ^ 64 - 1 by omega)
  -- the call, from the world with the listener calls before it cleared
  have hclear := World.Move.clearDeliveries w
  obtain ⟨hanswer, hhandles, hhost, g, hgid, hs⟩ := World.Shadow.of_unregistered_call
    (hg.move hclear) (hwired.move hclear) hlocal'
    (show w.host.table.registrations.count.toNat < 2 ^ 64 - 1 by omega) hcall hc hname hnot
    fun id hid => (hi id hid).moves (.single hclear)
  have hgid' : g.id = issued.toOption := hgid
  -- the run after the call, from both worlds
  have hroom' : g.id ≠ none → (sessionStep w call).2.host.table.registrations.count.toNat +
      after.length < 2 ^ 64 - 1 := fun _ => by
    have := World.count_sessionStep_le w call
    omega
  have hrun : World.Shadow g (runSession { w with deliveries := #[] } after).2
      (runSession (sessionStep w call).2 (after.map (renumberStep g.id))).2 :=
    hs.runSession after hroom'
  rw [hgid'] at hrun
  have hlast : g.id ≠ none → later'.host.table.registrations.count.toNat < 2 ^ 64 - 1 := fun hid => by
    have hle : later'.host.table.registrations.count.toNat ≤
        (sessionStep w call).2.host.table.registrations.count.toNat +
          (after.map (renumberStep issued.toOption)).length := World.count_runSession_le _ _
    have := hroom' hid
    rw [List.length_map] at hle
    omega
  -- the run without the call differs from the one from the cleared world in listener calls only
  have hsame := runSession_clear w after
  refine ⟨?_, hhandles, fun b => hs.stats b, fun e he => ?_, fun hcmp => ?_, fun n => ?_, fun k hk => ?_⟩
  · rw [sessionStep_eq_runStep]
    dsimp only
    rw [hanswer, hs.deliveries]
    rfl
  · rw [show (sessionStep w call).2.host = (w.host.register c w.listeners.size).2 from hhost]
    exact Host.table_register_of_error he
  · have hnext := (hrun.sessionStep hlast next).2
    rw [hgid'] at hnext
    rw [hnext hcmp]
    exact congrArg Prod.fst (sessionStep_congr hsame next)
  · rw [hrun.handleState n]
    have hstate := congrArg (fun v : World => v.handleState n) hsame
    exact hstate
  · rw [hrun.host.lookup_counts hk]
    have hcounts := congrArg (fun v : World => v.host.counts.lookup k) hsame
    exact hcounts

/-- A subscribe to the terminal output under the name `a`, given up before its acknowledgement. -/
def abandonTerminal : Json :=
  .obj [("as", .str "a"), ("channel", .str "terminal-output"), ("op", .str "subscribe_abandon")]

/-- A subscribe to the terminal output under the name `x`. -/
def subscribeTerminal : Json :=
  .obj [("as", .str "x"), ("channel", .str "terminal-output"), ("op", .str "subscribe")]

/-- On a delayed host, a subscribe given up before its acknowledgement, then a subscribe, then the
removal of registration `1`: the removal is given as registration `2`. -/
theorem unregistered_call_unobserved_delayed :
    (∀ id, ((World.start (.delayed .empty 0)).host.register .terminalOutput 0).1 = .ok id →
      opOf abandonTerminal = "subscribe_abandon" ∧
        (World.start (.delayed .empty 0)).host.acknowledgesLater = true) ∧
    let w := World.start (.delayed .empty 0)
    let issued := (w.host.register .terminalOutput w.listeners.size).1
    let later := (runSession w [subscribeTerminal]).2
    let later' := (runSession (sessionStep w abandonTerminal).2
      ([subscribeTerminal].map (renumberStep issued.toOption))).2
    (sessionStep w abandonTerminal).1 =
      withMember (unregisteredAnswer .terminalOutput issued) "deliveries" (.arr []) ∧
    (sessionStep w abandonTerminal).2.handles = w.handles ∧
    (∀ b, (sessionStep w abandonTerminal).2.stats b = w.stats b) ∧
    (∀ e, issued = .error e → (sessionStep w abandonTerminal).2.host.table = w.host.table) ∧
    (Comparable issued.toOption (opOf World.unlistenTerminal) →
      (sessionStep later' (renumberStep issued.toOption World.unlistenTerminal)).1 =
        (sessionStep later World.unlistenTerminal).1) ∧
    (∀ n, later'.handleState n = later.handleState n) ∧
    (∀ k, k ∉ ["attempts", "listens"] → later'.host.counts.lookup k = later.host.counts.lookup k) :=
  have hnot : ∀ id, ((World.start (.delayed .empty 0)).host.register .terminalOutput 0).1 = .ok id →
      opOf abandonTerminal = "subscribe_abandon" ∧
        (World.start (.delayed .empty 0)).host.acknowledgesLater = true :=
    fun _ _ => ⟨rfl, rfl⟩
  have hw : (runSession (World.start (.delayed .empty 0)) []).2 = World.start (.delayed .empty 0) := rfl
  ⟨hnot, unregistered_call_unobserved (fun _ _ h => by cases h) rfl (by decide) hw (.inr (.inl rfl)) rfl rfl
    hnot⟩

/-- Given unrenumbered, the later steps do see a subscribe given up on a delayed host: it took id
`1`, so the later subscribe has id `2`, and removing id `1` removes the given-up registration and
leaves the later subscribe, which the terminal emit then reaches; without the given-up call,
removing id `1` removes the later subscribe and the emit reaches no one. -/
theorem abandoned_subscribe_moves_later_ids :
    ((runSession (World.start (.delayed .empty 0))
      [abandonTerminal, subscribeTerminal, World.unlistenTerminal]).2.emitLocal .terminalOutput
        (Payload.terminal ⟨"w", "t", "d"⟩).encode).1 = 1 ∧
    ((runSession (World.start (.delayed .empty 0))
      [subscribeTerminal, World.unlistenTerminal]).2.emitLocal .terminalOutput
        (Payload.terminal ⟨"w", "t", "d"⟩).encode).1 = 0 := by
  decide

end ChannelBridge
