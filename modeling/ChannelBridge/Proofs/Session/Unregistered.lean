import ChannelBridge.Proofs.Session.Lockstep

/-! # Subscribes that register nothing

A subscribe that the host refuses, and one given up before a delayed host acknowledges it, leave a
session going on as it would have gone without them. The call still makes a listener, retired at
once, a recording or a queue for it, and on a delayed host a stored registration with the id the
host issued; so the session with the call runs in lockstep (`World.Shadow`) with the session
without it, every later registration id one higher past an issued one.

* `renumberStep`: a later step as the session with the call must be given it, naming the moved
  registration id.
* `World.Shadow.sessionStep`, `World.Shadow.runSession`: one step, and any run of steps, keep the
  two sessions in lockstep, and every step whose answer names no registration, listener or host
  counter answers the same in both.
-/

namespace ChannelBridge

/-- Looking up a list whose values were changed key by key. -/
theorem List.lookup_map_keyed {α : Type} (xs : List (String × α)) (f : String × α → α) (k : String) :
    (xs.map fun p => (p.1, f p)).lookup k = (xs.lookup k).map fun v => f (k, v) := by
  induction xs with
  | nil => rfl
  | cons p rest ih =>
    obtain ⟨k', v⟩ := p
    by_cases hk : k = k'
    · subst hk
      simp
    · have hne : (k == k') = false := beq_eq_false_iff_ne.2 hk
      simp [List.lookup_cons, hne, ih]

namespace Protocol

/-- The op a step names. -/
def opOf (step : Json) : String := ((step.get? "op").bind Json.str?).getD ""

/-- The steps whose answers name registration ids, recordings or the host's own counters. -/
def namingOps : List String :=
  ["subscribe", "subscribe_abandon", "stream", "cancel", "state", "listen_raw", "debug", "received",
    "host_counts"]

/-- The steps whose answers can show a call that registered nothing: the recording made under its
name, the host's attempt counters, and the number of the table's entries in debug text. -/
def tracingOps : List String := ["received", "host_counts", "debug"]

/-- The ops whose answers are compared between a session with a call and the session without it:
the ops that name no registration id, recording or host counter, and, when the call issued no id,
every op but those that can show the call. -/
def Comparable (skipped : Option Nat) (op : String) : Prop :=
  op ∉ namingOps ∨ skipped = none ∧ op ∉ tracingOps

theorem Comparable.skipped_eq_none {skipped : Option Nat} {op : String} (h : Comparable skipped op)
    (hop : op ∈ namingOps) : skipped = none := by
  rcases h with h | ⟨h, -⟩
  · exact absurd hop h
  · exact h

theorem Comparable.not_tracing {skipped : Option Nat} {op : String} (h : Comparable skipped op)
    (hop : op ∈ tracingOps) : False := by
  have hnaming : op ∈ namingOps := by
    simp only [tracingOps, List.mem_cons, List.not_mem_nil, or_false] at hop
    rcases hop with rfl | rfl | rfl <;> simp [namingOps]
  rcases h with h | ⟨-, h⟩
  · exact h hnaming
  · exact h hop

/-- A registration id moved past a skipped id. -/
def renumberId (skipped : Option Nat) : Json → Json
  | .num (.nat n) => .num (.nat (skip skipped n))
  | v => v

/-- A step with the registration id it names moved past a skipped id; only `unlisten` names one. -/
def renumberStep (skipped : Option Nat) (step : Json) : Json :=
  if opOf step = "unlisten" then
    match step with
    | .obj members =>
      .obj (members.map fun p => (p.1, if p.1 = "registration" then renumberId skipped p.2 else p.2))
    | other => other
  else step

theorem renumberStep_of_ne {skipped : Option Nat} {step : Json} (h : opOf step ≠ "unlisten") :
    renumberStep skipped step = step := if_neg h

/-- Renumbering changes no member but the registration. -/
theorem get?_renumberStep (skipped : Option Nat) (step : Json) {k : String}
    (hk : k ≠ "registration") : (renumberStep skipped step).get? k = step.get? k := by
  unfold renumberStep
  split
  · split
    · simp only [Json.get?]
      rw [List.lookup_map_keyed]
      cases List.lookup k _ <;> simp [hk]
    · rfl
  · rfl

theorem opOf_renumberStep (skipped : Option Nat) (step : Json) :
    opOf (renumberStep skipped step) = opOf step := by
  unfold opOf
  rw [get?_renumberStep skipped step (by decide)]

theorem field_renumberStep (skipped : Option Nat) (step : Json) {k : String}
    (hk : k ≠ "registration") : (renumberStep skipped step).field k = step.field k := by
  unfold Json.field
  rw [get?_renumberStep skipped step hk]

/-- The registration id of a renumbered `unlisten` is the moved id. -/
theorem registration_renumberStep (skipped : Option Nat) {step : Json} (h : opOf step = "unlisten") :
    ((renumberStep skipped step).field "registration").nat? =
      ((step.field "registration").nat?).map (skip skipped) := by
  unfold renumberStep
  rw [if_pos h]
  split
  · simp only [Json.field, Json.get?]
    rw [List.lookup_map_keyed]
    rcases List.lookup "registration" _ with _ | v
    · rfl
    · rcases v with _ | _ | (n | _ | _) | _ | _ | _ <;> rfl
  · next _ hne =>
    -- only an object has members
    cases step with
    | obj members => exact absurd rfl (hne members)
    | _ => rfl

theorem channelOf_renumberStep (skipped : Option Nat) (step : Json) :
    channelOf (renumberStep skipped step) "channel" = channelOf step "channel" := by
  unfold channelOf
  rw [field_renumberStep skipped step (by decide)]

/-- A session step runs its op on the world with the listener calls of the step before cleared. -/
theorem sessionStep_eq_runStep (w : World) (step : Json) : sessionStep w step =
    (withMember (runStep { w with deliveries := #[] } (opOf step) step).1 "deliveries"
      (.arr ((runStep { w with deliveries := #[] } (opOf step) step).2.deliveries.toList.map
        deliveryAnswer)), (runStep { w with deliveries := #[] } (opOf step) step).2) := rfl

/-- Off a broadcasting host, delivering goes through the local table. -/
theorem deliverStep_of_ne_broadcast {w : World} (h : ∀ f t, w.host ≠ .broadcast f t) (e : Envelope) :
    deliverStep w e =
      (Json.object [("invoked", Json.ofNat (w.deliverLocal e).1)], (w.deliverLocal e).2) := by
  unfold deliverStep
  cases hh : w.host <;> first | exact absurd hh (h _ _) | rfl

/-- Off a broadcasting host, a typed emit goes through the local table. -/
theorem emitTyped_of_ne_broadcast {w : World} (h : ∀ f t, w.host ≠ .broadcast f t) (p : Payload) :
    emitTyped w p = (Json.object [("invoked", Json.ofNat (w.emitLocal p.channel p.encode).1)],
      (w.emitLocal p.channel p.encode).2) := by
  unfold emitTyped
  cases hh : w.host <;> first | exact absurd hh (h _ _) | rfl

end Protocol

namespace World.Shadow

open Protocol

variable {g : Gap} {w w' : World}

/-! ## Steps of a session -/

theorem host_ne_broadcast (hs : Shadow g w w') :
    (∀ f t, w.host ≠ .broadcast f t) ∧ ∀ f t, w'.host ≠ .broadcast f t :=
  ⟨fun f t => (hs.host.ne_broadcast f t).1, fun f t => (hs.host.ne_broadcast f t).2⟩

theorem freshName (hs : Shadow g w w') (step : Json) : freshName w' step = freshName w step := by
  unfold Protocol.freshName
  simp only [hs.lookup_handles, Option.isSome_map]

theorem handleOf (hs : Shadow g w w') (step : Json) :
    handleOf w' step = (handleOf w step).map (Handle.shift g) := by
  unfold Protocol.handleOf
  dsimp only
  rw [hs.lookup_handles]
  cases w.handles.lookup (textOf step "sub") <;> rfl

theorem rebindHandle (hs : Shadow g w w') (name : String) (h : Handle) :
    Shadow g { w with handles := rebind w.handles name h }
      { w' with handles := rebind w'.handles name (h.shift g) } := by
  have hb := hs.withHandles (rebind w.handles name h)
  rwa [← rebind_map_snd, ← hs.handles] at hb

theorem rebindRaw (hs : Shadow g w w') (name : String) (l : Nat) :
    Shadow g { w with raws := rebind w.raws name l }
      { w' with raws := rebind w'.raws name (g.atListener l) } := by
  have hb := hs.withRaws (rebind w.raws name l)
  rwa [← rebind_map_snd, ← hs.raws] at hb

/-- The hosts' counters alike, in the world with the call after registering. -/
theorem count_lt_of_eq {v' : World} (hhost : v'.host = w'.host)
    (hlt : g.id ≠ none → w'.host.table.registrations.count.toNat < 2 ^ 64 - 1) :
    g.id ≠ none → v'.host.table.registrations.count.toNat < 2 ^ 64 - 1 := by
  rw [hhost]
  exact hlt

/-- With no id skipped, a moved subscription answers as the subscription. -/
theorem subscriptionAnswer (hs : Shadow g w w') (hid : g.id = none) (s : Subscription) :
    subscriptionAnswer w' (s.shift g) = subscriptionAnswer w s := by
  simp [Protocol.subscriptionAnswer, Subscription.shift, hs.isActive, g.atId_of_none hid]

theorem subscribeStep (hs : Shadow g w w')
    (hlt : g.id ≠ none → w'.host.table.registrations.count.toNat < 2 ^ 64 - 1)
    (step : Json) (abandon : Bool) :
    (g.id = none →
      (Protocol.subscribeStep w' step abandon).1 = (Protocol.subscribeStep w step abandon).1) ∧
    Shadow g (Protocol.subscribeStep w step abandon).2 (Protocol.subscribeStep w' step abandon).2 := by
  unfold Protocol.subscribeStep
  rw [hs.freshName step]
  split
  · exact ⟨fun _ => rfl, hs⟩
  · next c _ =>
    split
    · exact ⟨fun _ => rfl, hs⟩
    · next name _ =>
      dsimp only
      generalize (if step.field "free" == .bool true then BridgeRef.unnamed else .named (bridgeOf step)) = b
      obtain ⟨hr, hrec⟩ := hs.addRecording name (c == .updaterCheck)
      rcases h₀ : w.addRecording name (c == .updaterCheck) with ⟨r, v⟩
      rcases h₁ : w'.addRecording name (c == .updaterCheck) with ⟨r', v'⟩
      rw [h₀, h₁] at hr hrec
      dsimp only at hr hrec ⊢
      subst hr
      have hlt' := count_lt_of_eq (congrArg (fun p : Nat × World => p.2.host) h₁).symm hlt
      -- the recording's sink in the world with the call is the moved sink
      obtain ⟨hsub, hsh⟩ := hrec.subscribe hlt' c b (.record name r (reactionsOf step)) abandon
      rcases h₂ : v.subscribe c b (.record name r (reactionsOf step)) abandon with ⟨x, u⟩
      rcases h₃ : v'.subscribe c b (.record name (g.atRecord r) (reactionsOf step)) abandon with ⟨x', u'⟩
      simp only [Sink.shift] at hsub hsh
      rw [h₂, h₃] at hsub hsh
      dsimp only at hsub hsh
      subst hsub
      cases x with
      | active s =>
        have hb : Shadow g { u with handles := rebind u.handles name (.callback s) }
            { u' with handles := rebind u'.handles name (.callback (s.shift g)) } :=
          hsh.rebindHandle name (.callback s)
        exact ⟨fun hid => congrArg (fun a => if abandon then withMember a "abandoned" (.bool false) else a)
          (hb.subscriptionAnswer hid s), hb⟩
      | abandoned => exact ⟨fun _ => rfl, hsh⟩
      | failed e => exact ⟨fun _ => rfl, hsh⟩

theorem streamStep (hs : Shadow g w w')
    (hlt : g.id ≠ none → w'.host.table.registrations.count.toNat < 2 ^ 64 - 1) (step : Json) :
    (g.id = none → (Protocol.streamStep w' step).1 = (Protocol.streamStep w step).1) ∧
    Shadow g (Protocol.streamStep w step).2 (Protocol.streamStep w' step).2 := by
  unfold Protocol.streamStep
  rw [hs.freshName step]
  split
  · exact ⟨fun _ => rfl, hs⟩
  · next c _ =>
    split
    · exact ⟨fun _ => rfl, hs⟩
    · next name _ =>
      dsimp only
      obtain ⟨hq, hadd⟩ := hs.addQueue
      rcases h₀ : w.addQueue with ⟨q, v⟩
      rcases h₁ : w'.addQueue with ⟨q', v'⟩
      rw [h₀, h₁] at hq hadd
      dsimp only at hq hadd ⊢
      subst hq
      have hlt' := count_lt_of_eq (congrArg (fun p : Nat × World => p.2.host) h₁).symm hlt
      obtain ⟨hsub, hsh⟩ := hadd.subscribe hlt' c (.named (bridgeOf step)) (.queue q) false
      rcases h₂ : v.subscribe c (.named (bridgeOf step)) (.queue q) false with ⟨x, u⟩
      rcases h₃ : v'.subscribe c (.named (bridgeOf step)) (.queue (g.atQueue q)) false with ⟨x', u'⟩
      simp only [Sink.shift] at hsub hsh
      rw [h₂, h₃] at hsub hsh
      dsimp only at hsub hsh
      subst hsub
      cases x with
      | active s =>
        have hb : Shadow g { u with handles := rebind u.handles name (.stream s q) }
            { u' with handles := rebind u'.handles name (.stream (s.shift g) (g.atQueue q)) } :=
          hsh.rebindHandle name (.stream s q)
        exact ⟨fun hid => hb.subscriptionAnswer hid s, hb⟩
      | abandoned => exact ⟨fun _ => rfl, hsh⟩
      | failed e => exact ⟨fun _ => rfl, hsh⟩

theorem nextStep (hs : Shadow g w w') (step : Json) :
    (Protocol.nextStep w' step).1 = (Protocol.nextStep w step).1 ∧
    Shadow g (Protocol.nextStep w step).2 (Protocol.nextStep w' step).2 := by
  unfold Protocol.nextStep
  dsimp only
  rw [hs.lookup_handles]
  rcases w.handles.lookup (textOf step "sub") with _ | (s | ⟨s, q⟩)
  · exact ⟨rfl, hs⟩
  · exact ⟨rfl, hs⟩
  · -- a stream reads the moved queue
    obtain ⟨hp, hdq⟩ := hs.dequeue q
    simp only [Option.map_some, Handle.shift]
    rcases h₀ : w.dequeue q with ⟨p, v⟩
    rcases h₁ : w'.dequeue (g.atQueue q) with ⟨p', v'⟩
    rw [h₀, h₁] at hp hdq
    dsimp only at hp hdq
    subst hp
    cases p' with
    | some p => exact ⟨rfl, hdq⟩
    | none =>
      dsimp only
      rw [Subscription.listener_shift, hdq.queueClosed, hdq.isHeld]
      split <;> exact ⟨rfl, hdq⟩

theorem listenRawStep (hs : Shadow g w w')
    (hlt : g.id ≠ none → w'.host.table.registrations.count.toNat < 2 ^ 64 - 1) (step : Json) :
    (g.id = none → (Protocol.listenRawStep w' step).1 = (Protocol.listenRawStep w step).1) ∧
    Shadow g (Protocol.listenRawStep w step).2 (Protocol.listenRawStep w' step).2 := by
  unfold Protocol.listenRawStep
  split
  · exact ⟨fun _ => rfl, hs⟩
  · next c _ =>
    dsimp only
    rw [hs.lookup_raws, Option.isSome_map]
    split
    · exact ⟨fun _ => rfl, hs⟩
    · obtain ⟨hl, hadd⟩ := hs.addListener (.raw (textOf step "as"))
      rcases h₀ : w.addListener (.raw (textOf step "as")) with ⟨l, v⟩
      rcases h₁ : w'.addListener (.raw (textOf step "as")) with ⟨l', v'⟩
      simp only [Handler.shift] at hl hadd
      rw [h₀, h₁] at hl hadd
      dsimp only at hl hadd ⊢
      subst hl
      have hlt' := count_lt_of_eq (congrArg (fun p : Nat × World => p.2.host) h₁).symm hlt
      obtain ⟨hr, hlisten⟩ := hadd.hostListen hlt' c l
      rcases h₂ : v.hostListen c l with ⟨_ | id, u⟩ <;>
        rcases h₃ : v'.hostListen c (g.atListener l) with ⟨_ | id', u'⟩ <;>
        rw [h₂, h₃] at hr hlisten <;> simp only [Except.map] at hr <;> cases hr
      · exact ⟨fun _ => rfl, hlisten⟩
      · -- the raw listener's id and flag, moved
        have hb := hlisten.rebindRaw (textOf step "as") l
        refine ⟨fun hid => ?_, hb⟩
        simp only [Gap.atId_of_none _ hid, hb.isActive]

theorem deliverStep (hs : Shadow g w w') (e : Envelope) :
    (Protocol.deliverStep w' e).1 = (Protocol.deliverStep w e).1 ∧
    Shadow g (Protocol.deliverStep w e).2 (Protocol.deliverStep w' e).2 := by
  obtain ⟨hb, hb'⟩ := hs.host_ne_broadcast
  obtain ⟨hn, hdl⟩ := hs.deliverLocal e
  rw [deliverStep_of_ne_broadcast hb, deliverStep_of_ne_broadcast hb', hn]
  exact ⟨rfl, hdl⟩

theorem emitTyped (hs : Shadow g w w') (p : Payload) :
    (Protocol.emitTyped w' p).1 = (Protocol.emitTyped w p).1 ∧
    Shadow g (Protocol.emitTyped w p).2 (Protocol.emitTyped w' p).2 := by
  obtain ⟨hb, hb'⟩ := hs.host_ne_broadcast
  obtain ⟨hn, he⟩ := hs.emitLocal p.channel p.encode
  rw [emitTyped_of_ne_broadcast hb, emitTyped_of_ne_broadcast hb', hn]
  exact ⟨rfl, he⟩

theorem dispatchStep (hs : Shadow g w w') (step : Json) :
    (Protocol.dispatchStep w' step).1 = (Protocol.dispatchStep w step).1 ∧
    Shadow g (Protocol.dispatchStep w step).2 (Protocol.dispatchStep w' step).2 := by
  unfold Protocol.dispatchStep
  split
  · exact ⟨rfl, hs⟩
  · next capacity _ =>
    split
    · exact ⟨rfl, hs⟩
    · dsimp only
      generalize (step.field "abort" == .bool true) = abort
      generalize ((step.field "events").arr?.getD []).map outgoingOf = items
      obtain ⟨hr, hd⟩ := hs.dispatch capacity abort items
      rcases h₀ : w.dispatch capacity abort items with ⟨results, v⟩
      rcases h₁ : w'.dispatch capacity abort items with ⟨results', v'⟩
      rw [h₀, h₁] at hr hd
      dsimp only at hr hd
      subst hr
      exact ⟨rfl, hd⟩

/-- A text read as an op other than `unlisten` is not `unlisten`. -/
theorem ne_unlisten_of_ofName? {op : String} {o : Op} (h : Op.ofName? op = some o)
    (ho : o ≠ .unlisten) : op ≠ "unlisten" := by
  rintro rfl
  exact ho (Option.some.inj h).symm

/-- An op whose every name is in a list of texts is read from a text of the list. -/
theorem mem_of_ofName? {op : String} {o : Op} {ops : List String} (h : Op.ofName? op = some o)
    (ho : ∀ n ∈ o.names, n ∈ ops) : op ∈ ops :=
  ho op (Op.mem_names_of_ofName? h)

/-- One op from both worlds, the world with the call given the step renumbered: the worlds stay in
lockstep, and an op whose answers are compared answers alike. -/
theorem runStep (hs : Shadow g w w')
    (hlt : g.id ≠ none → w'.host.table.registrations.count.toNat < 2 ^ 64 - 1) (step : Json) :
    Shadow g (Protocol.runStep w (opOf step) step).2
      (Protocol.runStep w' (opOf step) (renumberStep g.id step)).2 ∧
    (Comparable g.id (opOf step) →
      (Protocol.runStep w' (opOf step) (renumberStep g.id step)).1 =
        (Protocol.runStep w (opOf step) step).1) := by
  cases hop : Op.ofName? (opOf step) with
  | none =>
    -- a text that names no op is refused alike, the worlds as they were
    rw [renumberStep_of_ne fun hu => by rw [hu] at hop; cases hop]
    simp only [Protocol.runStep, hop]
    exact ⟨hs, fun _ => rfl⟩
  | some o =>
    rw [runStep_of_ofName? w step hop, runStep_of_ofName? w' _ hop]
    by_cases hu : o = .unlisten
    · -- the only op that names a registration id: it removes the moved id
      subst hu
      have hname : opOf step = "unlisten" := by
        simpa [Op.names] using Op.mem_names_of_ofName? hop
      simp only [runOp]
      rw [channelOf_renumberStep, registration_renumberStep g.id hname]
      split
      · exact ⟨hs, fun _ => rfl⟩
      · next c _ =>
        cases (step.field "registration").nat? with
        | none => exact ⟨hs, fun _ => rfl⟩
        | some id =>
          obtain ⟨hfound, hun⟩ := hs.hostUnlisten c id
          exact ⟨hun, fun _ => congrArg (fun found => Json.object [("removed", .bool found)]) hfound⟩
    rw [renumberStep_of_ne (ne_unlisten_of_ofName? hop hu)]
    -- an op whose answer names an id, a recording or a host counter answers alike only when the
    -- call issued no id, and the ops that can show the call are never compared
    have hnaming : (∀ n ∈ o.names, n ∈ namingOps) → Comparable g.id (opOf step) → g.id = none :=
      fun ho hc => hc.skipped_eq_none (mem_of_ofName? hop ho)
    have htracing : (∀ n ∈ o.names, n ∈ tracingOps) → ¬Comparable g.id (opOf step) :=
      fun ho hc => hc.not_tracing (mem_of_ofName? hop ho)
    cases o with
    | unlisten => exact absurd rfl hu
    | subscribe =>
      obtain ⟨hanswer, hsub⟩ := hs.subscribeStep hlt step false
      exact ⟨hsub, fun hc => hanswer (hnaming (by simp [Op.names, namingOps]) hc)⟩
    | subscribeAbandon =>
      obtain ⟨hanswer, hsub⟩ := hs.subscribeStep hlt step true
      exact ⟨hsub, fun hc => hanswer (hnaming (by simp [Op.names, namingOps]) hc)⟩
    | stream =>
      obtain ⟨hanswer, hsub⟩ := hs.streamStep hlt step
      exact ⟨hsub, fun hc => hanswer (hnaming (by simp [Op.names, namingOps]) hc)⟩
    | next => exact ⟨(hs.nextStep step).2, fun _ => (hs.nextStep step).1⟩
    | cancel =>
      simp only [runOp]
      rw [hs.handleOf step]
      cases Protocol.handleOf w step with
      | ok hd =>
        have hc := hs.cancelHandle hd
        refine ⟨hc, fun hcmp => ?_⟩
        have hanswer := hc.subscriptionAnswer
          (hnaming (by simp [Op.names, namingOps]) hcmp) hd.subscription
        rwa [← Handle.subscription_shift] at hanswer
      | error a => exact ⟨hs, fun _ => rfl⟩
    | state =>
      simp only [runOp]
      rw [hs.handleOf step]
      cases Protocol.handleOf w step with
      | ok hd =>
        refine ⟨hs, fun hcmp => ?_⟩
        have hanswer := hs.subscriptionAnswer
          (hnaming (by simp [Op.names, namingOps]) hcmp) hd.subscription
        rwa [← Handle.subscription_shift] at hanswer
      | error a => exact ⟨hs, fun _ => rfl⟩
    | drop =>
      obtain ⟨hd, hdrop⟩ := hs.dropHandle (textOf step "sub")
      exact ⟨hdrop, fun _ => congrArg (fun d => Json.object [("dropped", .bool d)]) hd⟩
    | emitRaw =>
      simp only [runOp]
      split
      · exact ⟨hs, fun _ => rfl⟩
      · next c _ =>
        obtain ⟨hn, he⟩ := hs.emitLocal c (step.field "payload")
        -- neither host broadcasts: both take the local table's branch
        have hh := hs.host
        generalize w.host = h at hh ⊢
        generalize w'.host = h' at hh ⊢
        cases hh <;> exact ⟨he, fun _ => congrArg (fun n => Json.object [("invoked", Json.ofNat n)]) hn⟩
    | emit =>
      simp only [runOp]
      split
      · exact ⟨hs, fun _ => rfl⟩
      · next c _ =>
        have hh := hs.host
        generalize w.host = h at hh ⊢
        generalize w'.host = h' at hh ⊢
        cases hdecode : Payload.decode c (step.field "payload") with
        | ok p => cases hh <;> exact ⟨(hs.emitTyped p).2, fun _ => (hs.emitTyped p).1⟩
        | error err => cases hh <;> exact ⟨hs, fun _ => rfl⟩
    | emitTerminal => exact ⟨(hs.emitTyped _).2, fun _ => (hs.emitTyped _).1⟩
    | deliver =>
      simp only [runOp]
      split
      · next e _ => exact ⟨(hs.deliverStep e).2, fun _ => (hs.deliverStep e).1⟩
      · exact ⟨hs, fun _ => rfl⟩
    | listenerCount =>
      simp only [runOp]
      split
      · exact ⟨hs, fun _ => rfl⟩
      · next c _ =>
        obtain ⟨hn, hl⟩ := hs.liveCount c
        have hh := hs.host
        generalize w.host = h at hh ⊢
        generalize w'.host = h' at hh ⊢
        cases hh <;> exact ⟨hl, fun _ => congrArg (fun n => Json.object [("count", Json.ofNat n)]) hn⟩
    | close =>
      simp only [runOp]
      have hh := hs.host
      generalize w.host = h at hh ⊢
      generalize w'.host = h' at hh ⊢
      cases hh <;> exact ⟨hs.closeTable, fun _ => rfl⟩
    | isClosed => exact ⟨hs, fun _ => by simp only [runOp]; rw [hs.table.closed]⟩
    | stats => exact ⟨hs, fun _ => by simp only [runOp]; rw [hs.stats]⟩
    | hostCounts =>
      exact ⟨hs, fun hc => (htracing (by simp [Op.names, tracingOps]) hc).elim⟩
    | dispatch => exact ⟨(hs.dispatchStep step).2, fun _ => (hs.dispatchStep step).1⟩
    | received =>
      simp only [runOp]
      split <;> split <;> exact ⟨hs, fun hc => (htracing (by simp [Op.names, tracingOps]) hc).elim⟩
    | listenRaw =>
      obtain ⟨hanswer, hraw⟩ := hs.listenRawStep hlt step
      exact ⟨hraw, fun hc => hanswer (hnaming (by simp [Op.names, namingOps]) hc)⟩
    | retire =>
      simp only [runOp]
      rw [hs.lookup_raws]
      cases w.raws.lookup (textOf step "raw") with
      | none => exact ⟨hs, fun _ => rfl⟩
      | some l =>
        have hr := hs.retire l
        exact ⟨hr, fun _ => by simp only [Option.map_some, hr.isActive]⟩
    | debug =>
      refine ⟨?_, fun hc => (htracing (by simp [Op.names, tracingOps]) hc).elim⟩
      show Shadow g (debugStep w step).2 (debugStep w' step).2
      rw [debugStep_world, debugStep_world]
      exact hs

/-- One step of a session from both worlds, the world with the call given the step renumbered: the
worlds stay in lockstep, and a step whose answers are compared answers alike, down to the listener
calls it made. -/
theorem sessionStep (hs : Shadow g w w')
    (hlt : g.id ≠ none → w'.host.table.registrations.count.toNat < 2 ^ 64 - 1) (step : Json) :
    Shadow g (Protocol.sessionStep w step).2 (Protocol.sessionStep w' (renumberStep g.id step)).2 ∧
    (Comparable g.id (opOf step) →
      (Protocol.sessionStep w' (renumberStep g.id step)).1 = (Protocol.sessionStep w step).1) := by
  obtain ⟨hrun, hanswer⟩ := hs.clearDeliveries.runStep hlt step
  rw [sessionStep_eq_runStep, sessionStep_eq_runStep, opOf_renumberStep]
  exact ⟨hrun, fun hn => by rw [hanswer hn, hrun.deliveries]⟩

/-- A run of steps from both worlds, the world with the call given the steps renumbered, keeps the
worlds in lockstep, as long as the host's counter has room for an id per step. -/
theorem runSession (hs : Shadow g w w') (steps : List Json)
    (hlt : g.id ≠ none → w'.host.table.registrations.count.toNat + steps.length < 2 ^ 64 - 1) :
    Shadow g (Protocol.runSession w steps).2
      (Protocol.runSession w' (steps.map (renumberStep g.id))).2 := by
  -- the run goes step by step; each step issues at most one id in the world with the call
  induction steps generalizing w w' with
  | nil => exact hs
  | cons step rest ih =>
    rw [List.map_cons, runSession_cons, runSession_cons]
    have hstep : g.id ≠ none → w'.host.table.registrations.count.toNat < 2 ^ 64 - 1 := fun hid => by
      have := hlt hid
      simp only [List.length_cons] at this
      omega
    refine ih (hs.sessionStep hstep step).1 fun hid => ?_
    have hle := count_sessionStep_le w' (renumberStep g.id step)
    have := hlt hid
    simp only [List.length_cons] at this
    omega

end World.Shadow

end ChannelBridge
