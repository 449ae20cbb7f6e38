import ChannelBridge.Proofs.Session.Accounts

/-! # A bridge's counters over a whole session

The four counters of a named bridge are 64-bit words bumped by wrapping increments. They tell the
history of the bridge's subscriptions modulo `2 ^ 64`, on every host and after every run of steps
(`session_stats_accounted`):

* `registered` counts the subscribes and streams through the bridge that came out active, and
  `cancelled` the cancellations that found one of them still active, each at most once;
* every registration was cancelled, is still active, or was retired by the host with no
  cancellation (`Accounts.countP_registers_eq`): a cancelled listener stays retired, and only a
  registered subscription is cancelled;
* `delivered` and `malformed` count the runs of the bridge's handlers on envelopes they take and on
  envelopes they drop, so together they count every run of its handlers.

Each counter is its count reduced modulo `2 ^ 64`, so it is the count itself while fewer than
`2 ^ 64` such events happened, and `2 ^ 64` subscribes through one bridge bring `registered` back
to `0` (`registered_counter_wraps`).

A subscription through another bridge, or through none, makes no mark of this bridge and adds
nothing to its counters.
-/

namespace ChannelBridge

namespace Mark

/-- A handler of the bridge named `name` ran. -/
def runsFor (name : String) : Mark → Bool
  | .ran _ (.typed _ b _) _ => b == .named name
  | _ => false

/-- Each run of a bridge's handler is counted as delivered or as malformed, never both. -/
theorem countP_delivers_add_rejects (name : String) (ms : List Mark) :
    ms.countP (delivers name) + ms.countP (rejects name) = ms.countP (runsFor name) := by
  induction ms with
  | nil => rfl
  | cons m ms ih =>
    simp only [List.countP_cons]
    -- only a run of a typed handler counts, and its envelope fits or not
    cases m with
    | ran l h e =>
      cases h with
      | typed c b sink =>
        by_cases hb : (b == .named name) = true <;> by_cases hf : e.fits c = true <;>
          simp [delivers, rejects, runsFor, hb, hf] <;> omega
      | raw _ =>
        simp [delivers, rejects, runsFor]
        omega
    | _ =>
      simp [delivers, rejects, runsFor]
      omega

/-- The registrations through a bridge, read off the registered subscriptions. -/
theorem countP_registers (name : String) (ms : List Mark) :
    ms.countP (registers name) =
      (ms.filterMap subscribedSub).countP (fun s => s.bridge == .named name) := by
  rw [List.countP_filterMap]
  congr 1
  funext m
  cases m <;> rfl

/-- The cancellations through a bridge, read off the cancelled subscriptions. -/
theorem countP_cancels (name : String) (ms : List Mark) :
    ms.countP (cancels name) =
      (ms.filterMap cancelledSub).countP (fun s => s.bridge == .named name) := by
  rw [List.countP_filterMap]
  congr 1
  funext m
  cases m <;> rfl

end Mark

/-- Splitting a count three ways, where the first and the second cases exclude each other. -/
theorem countP_eq_three {α : Type} (xs : List α) (p c a : α → Bool)
    (hca : ∀ x ∈ xs, c x = true → a x = false) :
    xs.countP p = xs.countP (fun x => p x && c x) + xs.countP (fun x => p x && a x) +
      xs.countP (fun x => p x && !a x && !c x) := by
  induction xs with
  | nil => rfl
  | cons x xs ih =>
    simp only [List.countP_cons]
    rw [ih fun y hy => hca y (List.mem_cons_of_mem _ hy)]
    have hx := hca x List.mem_cons_self
    by_cases hp : p x = true <;> by_cases hc : c x = true <;> by_cases ha : a x = true <;>
      simp [hp, hc, ha] at hx ⊢ <;> omega

namespace World

namespace Accounts

variable {w : World} {tr : List Mark}

/-- The cancelled subscriptions are registered ones, each once: counting them is counting the
registered subscriptions that were cancelled. -/
theorem countP_cancelled (h : Accounts w tr) (p : Subscription → Bool) :
    (tr.filterMap Mark.cancelledSub).countP p = (tr.filterMap Mark.subscribedSub).countP
      (fun s => p s && (tr.filterMap Mark.cancelledSub).contains s) := by
  have hC : (tr.filterMap Mark.cancelledSub).Nodup := h.cancelled_nodup.of_map _
  have hS : (tr.filterMap Mark.subscribedSub).Nodup := h.subscribed_nodup.of_map _
  rw [List.countP_eq_length_filter, List.countP_eq_length_filter]
  refine ((List.perm_ext_iff_of_nodup (hC.filter _) (hS.filter _)).2 fun s => ?_).length_eq
  simp only [List.mem_filter, Bool.and_eq_true, List.contains_iff_mem]
  constructor
  · rintro ⟨hc, hp⟩
    have hs := h.cancelled_subscribed (Mark.mem_filterMap_cancelledSub.1 hc)
    exact ⟨Mark.mem_filterMap_subscribedSub.2 hs, hp, hc⟩
  · rintro ⟨-, hp, hc⟩
    exact ⟨hc, hp⟩

/-- Every registration through a bridge was cancelled, is still active, or was retired with no
cancellation: as counts of the marks. -/
theorem countP_registers_eq (h : Accounts w tr) (name : String) :
    tr.countP (Mark.registers name) = tr.countP (Mark.cancels name) +
      (tr.filterMap Mark.subscribedSub).countP
        (fun s => s.bridge == .named name && w.isActive s.listener) +
      (tr.filterMap Mark.subscribedSub).countP (fun s => s.bridge == .named name &&
        !w.isActive s.listener && !(tr.filterMap Mark.cancelledSub).contains s) := by
  rw [Mark.countP_registers, Mark.countP_cancels, h.countP_cancelled]
  -- a cancelled listener is not active any more
  refine countP_eq_three _ _ _ _ fun s _ hc => ?_
  rw [List.contains_iff_mem] at hc
  exact h.cancelled_retired (Mark.mem_filterMap_cancelledSub.1 hc)

/-- Each counter of a bridge is its count of marks as a 64-bit word. -/
theorem stats_toNat (h : Accounts w tr) (name : String) :
    (w.stats name).registered.toNat = tr.countP (Mark.registers name) % 2 ^ 64 ∧
    (w.stats name).cancelled.toNat = tr.countP (Mark.cancels name) % 2 ^ 64 ∧
    (w.stats name).delivered.toNat = tr.countP (Mark.delivers name) % 2 ^ 64 ∧
    (w.stats name).malformed.toNat = tr.countP (Mark.rejects name) % 2 ^ 64 := by
  rw [h.stats name]
  exact ⟨UInt64.toNat_ofNat', UInt64.toNat_ofNat', UInt64.toNat_ofNat', UInt64.toNat_ofNat'⟩

/-- The registrations of a bridge, as words: the cancelled ones, those still active and those
retired with no cancellation. -/
theorem registered_eq (h : Accounts w tr) (name : String) :
    (w.stats name).registered = (w.stats name).cancelled +
      .ofNat ((tr.filterMap Mark.subscribedSub).countP
        (fun s => s.bridge == .named name && w.isActive s.listener)) +
      .ofNat ((tr.filterMap Mark.subscribedSub).countP (fun s => s.bridge == .named name &&
        !w.isActive s.listener && !(tr.filterMap Mark.cancelledSub).contains s)) := by
  rw [h.stats name]
  show UInt64.ofNat (tr.countP (Mark.registers name)) = .ofNat (tr.countP (Mark.cancels name)) + _ + _
  rw [h.countP_registers_eq name, UInt64.ofNat_add, UInt64.ofNat_add]

end Accounts

/-- The counters of a named bridge account for the whole session modulo `2 ^ 64`, on every host and
after every run of steps. Each counter is what the marks of the bridge add up to, as a 64-bit word:
its registrations that came out active, its cancellations that found a subscription active, and the
runs of its handlers on envelopes they take or drop. The registrations are the cancelled ones,
those still active and those retired with no cancellation, as counts and so as words; the delivered
and malformed payloads are all the runs of the bridge's handlers. -/
theorem session_stats_accounted (host : Host) (steps : List Json) (name : String) :
    let w := (Protocol.runSession (World.start host) steps).2
    let tr := Protocol.sessionMarks (World.start host) steps
    let active := (tr.filterMap Mark.subscribedSub).countP
      (fun s => s.bridge == .named name && w.isActive s.listener)
    let retired := (tr.filterMap Mark.subscribedSub).countP (fun s => s.bridge == .named name &&
      !w.isActive s.listener && !(tr.filterMap Mark.cancelledSub).contains s)
    (w.stats name).registered.toNat = tr.countP (Mark.registers name) % 2 ^ 64 ∧
    (w.stats name).cancelled.toNat = tr.countP (Mark.cancels name) % 2 ^ 64 ∧
    (w.stats name).delivered.toNat = tr.countP (Mark.delivers name) % 2 ^ 64 ∧
    (w.stats name).malformed.toNat = tr.countP (Mark.rejects name) % 2 ^ 64 ∧
    tr.countP (Mark.registers name) = tr.countP (Mark.cancels name) + active + retired ∧
    (w.stats name).registered = (w.stats name).cancelled + .ofNat active + .ofNat retired ∧
    tr.countP (Mark.delivers name) + tr.countP (Mark.rejects name) = tr.countP (Mark.runsFor name) ∧
    ((w.stats name).delivered + (w.stats name).malformed).toNat =
      tr.countP (Mark.runsFor name) % 2 ^ 64 := by
  intro w tr active retired
  have h : Accounts w tr := Accounts.of_session host steps
  obtain ⟨hreg, hcan, hdel, hmal⟩ := h.stats_toNat name
  have hruns := Mark.countP_delivers_add_rejects name tr
  refine ⟨hreg, hcan, hdel, hmal, h.countP_registers_eq name, h.registered_eq name, hruns, ?_⟩
  -- one reduction of the sum is the sum of the reductions
  rw [UInt64.toNat_add, hdel, hmal, ← Nat.add_mod, hruns]

/-! ## A counter wraps -/

/-- A subscription on an open local table comes out active, and the table stays open. -/
theorem subscribe_of_open {w : World} {t : Registry} (ht : w.host = .local t)
    (hclosed : t.closed = false) (c : Channel) (b : BridgeRef) (sink : Sink) :
    ∃ id t', (w.subscribe c b sink false).1 = .active ⟨c, id, w.listeners.size, b⟩ ∧
      (w.subscribe c b sink false).2.host = .local t' ∧ t'.closed = false ∧
      (w.subscribe c b sink false).2.handles = w.handles := by
  obtain ⟨id, t', hl⟩ : ∃ id t', t.listen c w.listeners.size = some (id, t') := by
    cases h : t.listen c w.listeners.size with
    | none =>
      rw [Registry.listen_eq_none_iff, hclosed] at h
      cases h
    | some p => exact ⟨p.1, p.2, rfl⟩
  have hclosed' : t'.closed = false := by
    unfold Registry.listen at hl
    rw [if_neg (by simp [hclosed])] at hl
    cases hl
    exact hclosed
  refine ⟨id, t', ?_, ?_, hclosed', ?_⟩ <;>
    simp [subscribe, addListener, hostRegister, Host.register, ht, hl, Host.acknowledge,
      Host.acknowledgesLater, Host.registersLocally, setHost, logEvent]

/-- A handle name of `k + 1` letters. -/
def letterName (k : Nat) : String := String.ofList (List.replicate (k + 1) 'a')

theorem length_letterName (k : Nat) : (letterName k).length = k + 1 := by
  simp [letterName]

/-- A subscribe to the terminal output under the name `name`, through the main bridge. -/
def subscribeTerminal (name : String) : Json :=
  .obj [("as", .str name), ("channel", .str "terminal-output"), ("op", .str "subscribe")]

theorem textOf_subscribeTerminal (name : String) :
    Protocol.textOf (subscribeTerminal name) "as" = name := rfl

/-- `n` subscribes to the terminal output under fresh names, the first of `k + 1` letters. -/
def freshSubscribes (k : Nat) : Nat → List Json
  | 0 => []
  | n + 1 => subscribeTerminal (letterName k) :: freshSubscribes (k + 1) n

/-- A world on an open local table whose handle names have at most `k` letters. -/
structure RoomFor (w : World) (k : Nat) : Prop where
  host : ∃ t, w.host = .local t ∧ t.closed = false
  names : ∀ p ∈ w.handles, p.1.length ≤ k

theorem roomFor_start : (World.start (.local .empty)).RoomFor 0 :=
  ⟨⟨.empty, rfl, rfl⟩, fun _ hp => by cases hp⟩

/-- A subscribe to the terminal output under a fresh name, on an open local table, comes out active
through the main bridge: the table stays open, the name is bound to the new subscription and no
other handle changes, and the step marks one registration. -/
theorem sessionStep_subscribeTerminal {w : World} {t : Registry} (ht : w.host = .local t)
    (hclosed : t.closed = false) {name : String} (hne : name ≠ "")
    (hfresh : w.handles.lookup name = none) :
    ∃ (id : Nat) (t' : Registry) (w' : World),
      (Protocol.sessionStep w (subscribeTerminal name)).2 = { w' with
        handles := rebind w'.handles name
          (.callback ⟨.terminalOutput, id, w.listeners.size, .named "main"⟩) } ∧
      w'.host = .local t' ∧ t'.closed = false ∧ w'.handles = w.handles ∧
      Protocol.sessionStepMarks w (subscribeTerminal name) =
        [.subscribed ⟨.terminalOutput, id, w.listeners.size, .named "main"⟩] := by
  have hname : Protocol.freshName { w with deliveries := #[] } (subscribeTerminal name) =
      .ok name := by
    unfold Protocol.freshName
    simp [textOf_subscribeTerminal, hne, hfresh]
  -- the step reads the terminal output's channel, the main bridge and no reaction
  have hchan : Protocol.channelOf (subscribeTerminal name) "channel" = .ok .terminalOutput := rfl
  have hbridge : (if ((subscribeTerminal name).field "free" == Json.bool true) = true
      then BridgeRef.unnamed else .named (Protocol.bridgeOf (subscribeTerminal name))) =
      .named "main" := rfl
  have hreact : Protocol.reactionsOf (subscribeTerminal name) = [] := rfl
  have hupd : (Channel.terminalOutput == Channel.updaterCheck) = false := rfl
  have hrec : ({ w with deliveries := #[] }.addRecording name false).1 = w.records.size := rfl
  -- the subscription comes out active on the open table
  obtain ⟨id, t', hres, hhost, hclosed', hhandles⟩ := subscribe_of_open
    (w := ({ w with deliveries := #[] }.addRecording name false).2) ht hclosed
    .terminalOutput (.named "main") (.record name w.records.size [])
  rcases hsub : ({ w with deliveries := #[] }.addRecording name false).2.subscribe
    .terminalOutput (.named "main") (.record name w.records.size []) false with ⟨r, w'⟩
  rw [hsub] at hres hhost hhandles
  dsimp only at hres hhost hhandles
  subst hres
  refine ⟨id, t', w', ?_, hhost, hclosed', hhandles, ?_⟩
  · rw [Protocol.sessionStep_snd, Protocol.runStep_of_ofName? _ _ rfl]
    show (Protocol.subscribeStep _ _ false).2 = _
    unfold Protocol.subscribeStep
    simp only [hchan, hname, hbridge, hreact, hupd, hrec]
    rw [hsub]
    rfl
  · rw [Protocol.sessionStepMarks, Protocol.runStepMarks_of_ofName? _ _ rfl]
    simp only [Protocol.runOpMarks]
    unfold Protocol.subscribeStepMarks
    simp only [hchan, hname, hbridge, hreact, hupd, hrec]
    rw [hsub]
    rfl

/-- A subscribe under a name of `k + 1` letters comes out active, with one registration mark of
the main bridge, and leaves room for the next name. -/
theorem RoomFor.subscribe {w : World} {k : Nat} (h : w.RoomFor k) :
    (Protocol.sessionStep w (subscribeTerminal (letterName k))).2.RoomFor (k + 1) ∧
    (Protocol.sessionStepMarks w (subscribeTerminal (letterName k))).countP
      (Mark.registers "main") = 1 := by
  obtain ⟨⟨t, ht, hclosed⟩, hnames⟩ := h
  -- the name is fresh: every handle name is shorter
  have hfresh : w.handles.lookup (letterName k) = none := by
    refine List.lookup_eq_none_iff.2 fun p hp => bne_iff_ne.2 fun heq => ?_
    have := hnames p hp
    rw [← heq, length_letterName] at this
    omega
  have hne : letterName k ≠ "" := fun he => by
    have := length_letterName k
    rw [he] at this
    simp at this
  obtain ⟨id, t', w', hworld, hhost, hclosed', hhandles, hmarks⟩ :=
    sessionStep_subscribeTerminal ht hclosed hne hfresh
  refine ⟨⟨⟨t', by rw [hworld]; exact hhost, hclosed'⟩, ?_⟩, by rw [hmarks]; rfl⟩
  -- the new name has `k + 1` letters, and the others stay
  intro p hp
  rw [hworld] at hp
  rcases List.mem_cons.1 hp with rfl | hp
  · exact Nat.le_of_eq (length_letterName k)
  · have hp' := (List.mem_filter.1 hp).1
    rw [hhandles] at hp'
    exact Nat.le_succ_of_le (hnames p hp')

/-- Every subscribe of a run under fresh names comes out active through the main bridge. -/
theorem RoomFor.countP_registers_freshSubscribes (n : Nat) {w : World} {k : Nat}
    (h : w.RoomFor k) :
    (Protocol.sessionMarks w (freshSubscribes k n)).countP (Mark.registers "main") = n := by
  -- each subscribe leaves room for the next name
  induction n generalizing w k with
  | zero => rfl
  | succ n ih =>
    obtain ⟨hroom, hone⟩ := h.subscribe
    rw [freshSubscribes, Protocol.sessionMarks, List.countP_append, hone, ih hroom]
    omega

/-- The counters are words, not counts: after `2 ^ 64` subscribes through the main bridge, each of
which came out active, its `registered` counter reads `0`. -/
theorem registered_counter_wraps :
    (Protocol.sessionMarks (World.start (.local .empty)) (freshSubscribes 0 (2 ^ 64))).countP
      (Mark.registers "main") = 2 ^ 64 ∧
    ((Protocol.runSession (World.start (.local .empty)) (freshSubscribes 0 (2 ^ 64))).2.stats
      "main").registered = 0 := by
  have hcount := roomFor_start.countP_registers_freshSubscribes (2 ^ 64)
  refine ⟨hcount, ?_⟩
  rw [(Accounts.of_session (.local .empty) (freshSubscribes 0 (2 ^ 64))).stats "main"]
  show UInt64.ofNat _ = 0
  rw [hcount]
  decide

end World

end ChannelBridge
