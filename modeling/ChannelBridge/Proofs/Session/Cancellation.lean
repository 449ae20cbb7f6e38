import ChannelBridge.Proofs.Session.Safety

/-! # Cancelling a subscription

A subscription is cancelled through its handle: by an explicit cancel, by a stream's cancel, or by
dropping the handle. The first cancellation of an active subscription retires its listener, asks the
host to remove its registration and counts once on its bridge; a subscription whose listener was
retired already, by an earlier cancellation or by the host's close, is left as it is. No step turns
a listener back on, so every cancellation after the first is of the second kind.

On a local table an id names one registration, so the removal takes out the subscription's own
registration: the other registrations of its channel keep their order, the other channels are left,
and a counting host counts one request and one removal.

* `isActive_cancel_of_ne`, `stats_cancel`: what a cancellation changes besides the host.
* `Registry.unlisten_of_mem`: removing a registration by an id no other one has.
* `cancel_unlistens_once`: the whole life of a handle's cancellations.
-/

namespace ChannelBridge

/-- Removing by id a registration whose id no other registration of the channel has: the table
finds it, and takes out that registration alone, keeping the others in their order. -/
theorem Registry.unlisten_of_mem {t : Registry} {c : Channel} {r : Registration}
    (hr : r ∈ t.entries c) (huniq : ∀ r' ∈ t.entries c, r'.id = r.id → r' = r) :
    (t.unlisten c r.id).1 = true ∧ ∃ pre post, t.entries c = pre ++ r :: post ∧
      (t.unlisten c r.id).2.entries c = pre ++ post := by
  obtain ⟨a, pre, post, -, ha, hsplit, herase⟩ :=
    List.exists_of_eraseP (p := fun reg => reg.id == r.id) hr (by simp)
  -- the first registration with the id is the one we remove
  have har : a = r := huniq a (hsplit ▸ List.mem_append_right _ List.mem_cons_self) (by simpa using ha)
  rw [har] at hsplit
  refine ⟨?_, pre, post, hsplit, ?_⟩
  · unfold unlisten
    cases hget : t.table.get c with
    | none => simp [entries, hget] at hr
    | some list =>
      have hlist : list = t.entries c := by simp [entries, hget]
      subst hlist
      exact List.any_eq_true.2 ⟨r, hr, by simp⟩
  · rw [entries_unlisten, if_pos rfl, herase]

/-- A counting host counts every removal it is asked for, and every one that found its
registration. -/
theorem Host.unlisten_counting (t : Registry) (a u r : Nat) (c : Channel) (id : Nat) :
    (Host.counting t a u r).unlisten c id = ((t.unlisten c id).1,
      .counting (t.unlisten c id).2 a (u + 1) (if (t.unlisten c id).1 then r + 1 else r)) := rfl

namespace World

variable {w : World}

/-- Cancelling an active subscription asks the host to remove its registration. -/
theorem host_cancel_of_active (w : World) {s : Subscription} (hact : w.isActive s.listener = true) :
    (w.cancel s).host = (w.host.unlisten s.channel s.registration).2 := by
  rw [host_cancel, if_pos hact]

/-- Cancelling retires the subscription's listener and no other. -/
theorem isActive_cancel_of_ne (w : World) (s : Subscription) {l : Nat} (hl : l ≠ s.listener) :
    (w.cancel s).isActive l = w.isActive l := by
  by_cases hact : w.isActive s.listener = true
  · have hlisteners : (w.cancel s).listeners = (w.retire s.listener).listeners := by
      rw [listeners_cancel, if_pos hact]
    rw [isActive_congr hlisteners, isActive_retire_of_ne w (Ne.symm hl)]
  · have hlisteners : (w.cancel s).listeners = w.listeners := by
      rw [listeners_cancel, if_neg hact]
    rw [isActive_congr hlisteners]

/-- The first cancellation of an active subscription counts once on its bridge, if it has a named
one; no other cancellation changes a counter. -/
theorem stats_cancel (w : World) (s : Subscription) (name : String) :
    (w.cancel s).stats name =
      if w.isActive s.listener = true ∧ s.bridge = .named name then
        { w.stats name with cancelled := (w.stats name).cancelled + 1 } else w.stats name := by
  by_cases hact : w.isActive s.listener = true
  · -- retiring, removing and logging leave the counters: the bump is the one change
    have hbump : (w.cancel s).stats name =
        (((w.retire s.listener).hostUnlisten s.channel s.registration).2.bump s.bridge
          fun st => { st with cancelled := st.cancelled + 1 }).stats name := by
      unfold cancel
      rw [if_pos hact]
      rfl
    rw [hbump]
    by_cases hb : s.bridge = .named name
    · rw [if_pos ⟨hact, hb⟩, hb, stats_bump_named]
      rfl
    · rw [if_neg fun h => hb h.2, stats_bump_of_ne _ _ _ hb]
      rfl
  · rw [cancel_of_inactive (by simpa using hact), if_neg fun h => hact h.1]

/-- A subscription once cancelled stays retired through any later change that turns no listener
back on. -/
theorem isActive_after_cancel (w : World) (s : Subscription) (hl : s.listener < w.listeners.size)
    {w' : World} (hg : Grows (w.cancel s) w') : w'.isActive s.listener = false :=
  hg.inactive (Nat.lt_of_lt_of_le hl (Grows.cancel w s).size_le) (isActive_cancel_self w s)

/-- On a local table, the host finds an active subscription's registration and removes it alone:
the other registrations of its channel keep their order, and the other channels are left. -/
theorem Consistent.unlisten_own (hc : w.Consistent) {n : String} {h : Handle}
    (hh : (n, h) ∈ w.handles) (hact : w.isActive h.subscription.listener = true) :
    (w.host.unlisten h.subscription.channel h.subscription.registration).1 = true ∧
    (∃ pre post, w.host.table.entries h.subscription.channel = pre ++ h.subscription.entry :: post ∧
      (w.host.unlisten h.subscription.channel h.subscription.registration).2.table.entries
        h.subscription.channel = pre ++ post) ∧
    ∀ c, c ≠ h.subscription.channel →
      (w.host.unlisten h.subscription.channel h.subscription.registration).2.table.entries c =
        w.host.table.entries c := by
  obtain ⟨hfound, htable⟩ := Host.unlisten_of_registersLocally hc.registersLocally
    h.subscription.channel h.subscription.registration
  have hreg := hc.active_registered hh hact
  -- within a channel an id names one registration
  obtain ⟨hfound', pre, post, hsplit, herase⟩ := Registry.unlisten_of_mem hreg fun r' hr' he =>
    Registration.eq_of_id_eq (hc.ids_increase _) hr' hreg he
  refine ⟨hfound.trans hfound', ⟨pre, post, hsplit, ?_⟩, fun c hne => ?_⟩
  · rw [htable]
    exact herase
  · rw [htable, Registry.entries_unlisten, if_neg hne]

/-- Cancellation is idempotent and removes exactly its own registration. Take a handle of a session
on any host, after any steps and at any point of the next one. A cancellation of a retired
subscription changes nothing. The first cancellation of an active one asks the host to remove the
subscription's channel and id, retires its listener and no other, and leaves the handles, the calls,
the recordings and the queues; it counts once on the subscription's bridge, and no other
cancellation counts. After it, through any further steps, the subscription stays retired, so every
later cancellation or drop changes nothing. On a local table reached without touching the host
behind the bridges, the host finds the registration and removes it alone, and a counting host
counts one request and one removal. -/
theorem cancel_unlistens_once (h₀ : Host) (steps : List Json) {w : World}
    (hm : Moves (Protocol.runSession (start h₀) steps).2 w) {n : String} {h : Handle}
    (hh : (n, h) ∈ w.handles) :
    (∀ v : World, v.isActive h.subscription.listener = false → v.cancel h.subscription = v) ∧
    (w.isActive h.subscription.listener = true →
      (w.cancel h.subscription).host =
        (w.host.unlisten h.subscription.channel h.subscription.registration).2 ∧
      (w.cancel h.subscription).isActive h.subscription.listener = false ∧
      (∀ l, l ≠ h.subscription.listener → (w.cancel h.subscription).isActive l = w.isActive l) ∧
      (w.cancel h.subscription).handles = w.handles ∧
      (w.cancel h.subscription).deliveries = w.deliveries ∧
      (w.cancel h.subscription).records = w.records ∧
      (w.cancel h.subscription).queues = w.queues) ∧
    (∀ name, (w.cancel h.subscription).stats name =
      if w.isActive h.subscription.listener = true ∧ h.subscription.bridge = .named name then
        { w.stats name with cancelled := (w.stats name).cancelled + 1 } else w.stats name) ∧
    (∀ more w', Moves (Protocol.runSession (w.cancel h.subscription) more).2 w' →
      w'.isActive h.subscription.listener = false) ∧
    (∀ w₀, w₀.Reachable → Moves w₀ w → w.isActive h.subscription.listener = true →
      (w.host.unlisten h.subscription.channel h.subscription.registration).1 = true ∧
      (∃ pre post, w.host.table.entries h.subscription.channel = pre ++ h.subscription.entry :: post ∧
        (w.cancel h.subscription).host.table.entries h.subscription.channel = pre ++ post) ∧
      (∀ c, c ≠ h.subscription.channel →
        (w.cancel h.subscription).host.table.entries c = w.host.table.entries c) ∧
      (∀ t a u r, w.host = .counting t a u r →
        ∃ t', (w.cancel h.subscription).host = .counting t' a (u + 1) (r + 1))) := by
  have hw : w.Wired := wired_of_session hm
  have hl := hw.lt_size hh
  refine ⟨fun v hoff => cancel_of_inactive hoff, fun hact => ?_, stats_cancel w _,
    fun more w' hrun => ?_, fun w₀ hr hm₀ hact => ?_⟩
  · exact ⟨host_cancel_of_active w hact, isActive_cancel_self w _,
      fun l hne => isActive_cancel_of_ne w _ hne, handles_cancel w _, deliveries_cancel w _,
      records_cancel w _, queues_cancel w _⟩
  · -- no later step turns the listener back on
    exact isActive_after_cancel w _ hl ((Grows.runSession _ more).trans (Grows.moves hrun))
  · have hc : w.Consistent := hr.consistent.moves hm₀
    obtain ⟨hfound, ⟨pre, post, hsplit, herase⟩, hother⟩ := hc.unlisten_own hh hact
    have hhost := host_cancel_of_active w hact
    refine ⟨hfound, ⟨pre, post, hsplit, ?_⟩, fun c hne => ?_, fun t a u r hcount => ?_⟩
    · rw [hhost]
      exact herase
    · rw [hhost]
      exact hother c hne
    · -- the request found the registration, so it counts as a removal too
      rw [hcount, Host.unlisten_counting] at hfound
      rw [hhost, hcount, Host.unlisten_counting]
      exact ⟨_, by rw [if_pos hfound]⟩

/-- A session on a counting host with two callback subscriptions to the terminal output, under
the names `b` and `c`. -/
def countingTerminalPair : World :=
  let w₁ := (Protocol.sessionStep (start (.counting .empty 0 0 0)) (.obj [("as", .str "b"),
    ("channel", .str "terminal-output"), ("op", .str "subscribe")])).2
  (Protocol.sessionStep w₁ (.obj [("as", .str "c"), ("channel", .str "terminal-output"),
    ("op", .str "subscribe")])).2

/-- Cancelling `b`'s subscription: the counting host counts one request and one removal, the
terminal output keeps `c`'s registration alone and `c` stays active, the main bridge counts one
cancellation, and a second cancellation changes nothing. -/
theorem countingTerminalPair_cancel :
    (countingTerminalPair.cancel ⟨.terminalOutput, 1, 0, .named "main"⟩).host.counts =
      [("listens", 2), ("unlistens", 1), ("removed", 1)] ∧
    (countingTerminalPair.cancel ⟨.terminalOutput, 1, 0, .named "main"⟩).host.table.entries
      .terminalOutput = [⟨2, 1⟩] ∧
    (countingTerminalPair.cancel ⟨.terminalOutput, 1, 0, .named "main"⟩).isActive 1 = true ∧
    ((countingTerminalPair.cancel ⟨.terminalOutput, 1, 0, .named "main"⟩).stats
      "main").cancelled = 1 ∧
    (countingTerminalPair.cancel ⟨.terminalOutput, 1, 0, .named "main"⟩).cancel
      ⟨.terminalOutput, 1, 0, .named "main"⟩ =
      countingTerminalPair.cancel ⟨.terminalOutput, 1, 0, .named "main"⟩ := by
  have hh : ("b", Handle.callback ⟨.terminalOutput, 1, 0, .named "main"⟩) ∈
      countingTerminalPair.handles := by decide
  have hr : countingTerminalPair.Reachable :=
    .step (.step (.start rfl rfl) _ (by decide) (by decide)) _ (by decide) (by decide)
  have hm : Moves (Protocol.runSession (start (.counting .empty 0 0 0))
      [.obj [("as", .str "b"), ("channel", .str "terminal-output"), ("op", .str "subscribe")],
        .obj [("as", .str "c"), ("channel", .str "terminal-output"), ("op", .str "subscribe")]]).2
      countingTerminalPair := .refl
  obtain ⟨hidle, hactive, hstats, -, hlocal⟩ := cancel_unlistens_once _ _ hm hh
  dsimp only [Handle.subscription] at hidle hactive hstats hlocal
  obtain ⟨-, -, hother, -, -, -, -⟩ := hactive (by decide)
  obtain ⟨-, ⟨pre, post, hsplit, herase⟩, -, hcount⟩ := hlocal _ hr .refl (by decide)
  obtain ⟨t', ht'⟩ := hcount countingTerminalPair.host.table 2 0 0 rfl
  -- the cancelled registration is the first of the channel's two
  have hbefore : countingTerminalPair.host.table.entries .terminalOutput = [⟨1, 0⟩, ⟨2, 1⟩] := by
    decide
  rw [hbefore] at hsplit
  have hpre : pre = [] ∧ post = [⟨2, 1⟩] := by
    simpa [List.cons_eq_append_iff, Subscription.entry] using hsplit
  refine ⟨by rw [ht']; rfl, ?_, by rw [hother 1 (by decide)]; decide, by rw [hstats]; decide,
    hidle _ (isActive_cancel_self _ _)⟩
  rw [herase, hpre.1, hpre.2]
  rfl

end World

end ChannelBridge
