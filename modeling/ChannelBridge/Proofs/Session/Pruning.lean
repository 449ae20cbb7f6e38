import ChannelBridge.Proofs.Session.Cancellation
import ChannelBridge.Proofs.Session.Runs
import ChannelBridge.Proofs.Session.Shadow

/-! # Pruning retired registrations

A local table does not remove a registration when its listener is retired: the registration waits
in its channel's list until the channel is next touched. Counting the listeners of a channel and
delivering on it both begin by pruning the channel, which hands back the listeners of the active
registrations and writes back the list without the retired ones.

Pruning is exact: it returns the active listeners of the channel in list order, keeps exactly the
active registrations of the channel, removes the channel's entry when none is left, and touches no
other channel and no counter. So it is invisible to everything that reads only active
registrations: the active registrations of every channel stay in their order, and removing an
active registration gives the same answer and the same table whether or not a prune came first.
For a session, cancelling a subscription after counting a channel's listeners is counting them after
the cancellation.

* `Registry.table_prune`, `Registry.table_unlisten`: the table after each operation, channel by
  channel.
* `Registry.unlisten_prune`: removing an active registration commutes with pruning.
* `World.Consistent.cancel_liveCount`: cancelling commutes with counting listeners.
* `pruning_exact`: the whole statement.
-/

namespace ChannelBridge

namespace ChannelMap

/-- Two maps that agree on every channel are equal. -/
theorem ext_get {α : Type} {m m' : ChannelMap α} (h : ∀ c, m.get c = m'.get c) : m = m' := by
  obtain ⟨a₁, a₂, a₃, a₄, a₅⟩ := m
  obtain ⟨b₁, b₂, b₃, b₄, b₅⟩ := m'
  simp only [mk.injEq]
  exact ⟨h .appServerEvent, h .dictationDownload, h .dictationEvent, h .terminalOutput,
    h .updaterCheck⟩

end ChannelMap

namespace Registry

/-- Two tables with the same entries and the same counters are equal. -/
theorem ext_get {r r' : Registry} (ht : ∀ c, r.table.get c = r'.table.get c)
    (hr : r.registrations = r'.registrations) (he : r.events = r'.events)
    (hc : r.closed = r'.closed) : r = r' := by
  obtain ⟨t, a, b, x⟩ := r
  obtain ⟨t', a', b', x'⟩ := r'
  simp only at ht hr he hc
  rw [ChannelMap.ext_get ht, hr, he, hc]

/-- Storing a list for `c` sets its entry, to nothing for the empty list, and keeps every other
entry. -/
theorem table_store (r : Registry) (c d : Channel) (list : List Registration) :
    (r.store c list).table.get d = if d = c then (if list = [] then none else some list)
      else r.table.get d := by
  by_cases hd : d = c
  · subst hd
    simp [store]
  · simp [store, hd]

/-- After pruning `c`, its entry holds its active registrations, in order, and is gone when none is
left; a channel without an entry stays without one, and every other channel keeps its entry. -/
theorem table_prune (r : Registry) (c d : Channel) (active : Nat → Bool) :
    (r.prune c active).2.table.get d =
      if d = c then (r.table.get c).bind fun list =>
        if list.filter (fun reg => active reg.listener) = [] then none
        else some (list.filter fun reg => active reg.listener)
      else r.table.get d := by
  unfold prune
  cases hc : r.table.get c with
  | none =>
    by_cases hd : d = c
    · subst hd
      simp [hc]
    · simp [hd]
  | some list =>
    rw [table_store]
    split <;> simp

/-- After removing id `id` from `c`, its entry loses the first registration with that id and is gone
when none is left; every other channel keeps its entry. -/
theorem table_unlisten (r : Registry) (c d : Channel) (id : Nat) :
    (r.unlisten c id).2.table.get d =
      if d = c then (r.table.get c).bind fun list =>
        if list.eraseP (fun reg => reg.id == id) = [] then none
        else some (list.eraseP fun reg => reg.id == id)
      else r.table.get d := by
  unfold unlisten
  cases hc : r.table.get c with
  | none =>
    by_cases hd : d = c
    · subst hd
      simp [hc]
    · simp [hd]
  | some list =>
    rw [table_store]
    split <;> simp

/-- Pruning leaves every channel's active registrations, in their order. -/
theorem filter_entries_prune (r : Registry) (c d : Channel) (active : Nat → Bool) :
    ((r.prune c active).2.entries d).filter (fun reg => active reg.listener) =
      (r.entries d).filter fun reg => active reg.listener := by
  rw [entries_prune]
  split
  · next hd =>
    subst hd
    simp [List.filter_filter]
  · rfl

/-- Removing a registration whose listener is active and dropping the retired ones can be done in
either order. -/
theorem filter_eraseP_of_active {list : List Registration} {active : Nat → Bool} {id : Nat}
    (hid : ∀ reg ∈ list, reg.id = id → active reg.listener = true) :
    (list.eraseP fun reg => reg.id == id).filter (fun reg => active reg.listener) =
      (list.filter fun reg => active reg.listener).eraseP fun reg => reg.id == id := by
  induction list with
  | nil => rfl
  | cons a rest ih =>
    have ih := ih fun reg hreg => hid reg (List.mem_cons_of_mem _ hreg)
    by_cases ha : a.id = id
    · have hact := hid a List.mem_cons_self ha
      simp [ha, hact]
    · by_cases hact : active a.listener = true <;> simp [ha, hact, ih]

/-- An entry read back from a non-empty list, after a change that keeps the empty list empty. -/
theorem bind_entry {list : List Registration} (f : List Registration → List Registration)
    (hf : f [] = []) :
    (if list = [] then none else some list).bind (fun l => if f l = [] then none else some (f l)) =
      if f list = [] then none else some (f list) := by
  by_cases hl : list = []
  · subst hl
    simp [hf]
  · simp [hl]

/-- Removing a registration whose listener is active (every registration of the channel with that
id is active) gives the same answer after a prune as before it, and leaves the table that pruning
after the removal leaves. -/
theorem unlisten_prune (r : Registry) (c d : Channel) (active : Nat → Bool) (id : Nat)
    (hid : ∀ reg ∈ r.entries d, reg.id = id → active reg.listener = true) :
    ((r.prune c active).2.unlisten d id).1 = (r.unlisten d id).1 ∧
    ((r.prune c active).2.unlisten d id).2 = ((r.unlisten d id).2.prune c active).2 := by
  refine ⟨?_, ?_⟩
  · -- the registrations with the id are active, so pruning keeps them
    rw [unlisten_fst, unlisten_fst, entries_prune]
    split
    · next hd =>
      subst hd
      rw [Bool.eq_iff_iff]
      simp only [List.any_eq_true, List.mem_filter, beq_iff_eq]
      exact ⟨fun ⟨reg, ⟨hreg, _⟩, he⟩ => ⟨reg, hreg, he⟩,
        fun ⟨reg, hreg, he⟩ => ⟨reg, ⟨hreg, hid reg hreg he⟩, he⟩⟩
    · rfl
  · refine ext_get (fun e => ?_) (by simp) ?_ ?_
    · simp only [table_unlisten, table_prune]
      by_cases hed : e = d <;> by_cases hec : e = c
      · -- the channel pruned is the one removed from: the two changes of its list commute
        subst hed
        subst hec
        cases hget : r.table.get e with
        | none => simp
        | some list =>
          have hlist : r.entries e = list := by simp [entries, hget]
          rw [hlist] at hid
          simp only [if_true, Option.bind_some]
          rw [bind_entry _ (by simp), bind_entry _ (by simp), filter_eraseP_of_active hid]
      · subst hed
        simp [hec]
      · subst hec
        simp [hed]
      · simp [hed, hec]
    · exact ((unlisten_frame _ d id).2.1.trans (prune_frame r c active).2.1).trans
        ((prune_frame _ c active).2.1.trans (unlisten_frame r d id).2.1).symm
    · exact ((unlisten_frame _ d id).1.trans (prune_frame r c active).1).trans
        ((prune_frame _ c active).1.trans (unlisten_frame r d id).1).symm

/-- Pruning with two activity tests that agree on the channel's listeners prunes alike. -/
theorem prune_congr {r : Registry} {c : Channel} {active active' : Nat → Bool}
    (h : ∀ reg ∈ r.entries c, active reg.listener = active' reg.listener) :
    r.prune c active = r.prune c active' := by
  unfold prune
  cases hc : r.table.get c with
  | none => rfl
  | some list =>
    have hlist : r.entries c = list := by simp [entries, hc]
    rw [hlist] at h
    have hlive : list.filter (fun reg => active reg.listener) =
        list.filter fun reg => active' reg.listener := List.filter_congr fun reg hreg => h reg hreg
    simp only [hlive]

end Registry

/-- On a host that registers locally, removing from a replaced table is replacing the table after
removing from the host, when both tables answer the removal alike. -/
theorem Host.unlisten_setTable {h : Host} (hl : h.registersLocally = true) (t : Registry)
    (c : Channel) (id : Nat) (hfound : (t.unlisten c id).1 = (h.table.unlisten c id).1) :
    (h.setTable t).unlisten c id =
      ((h.table.unlisten c id).1, (h.unlisten c id).2.setTable (t.unlisten c id).2) := by
  cases h <;> simp_all [Host.registersLocally, Host.unlisten, Host.setTable, Host.table]

namespace World

variable {w : World}

@[simp] theorem listeners_liveCount (w : World) (c : Channel) :
    (w.liveCount c).2.listeners = w.listeners := rfl

theorem liveCount_snd (w : World) (c : Channel) :
    (w.liveCount c).2 = w.setTable (w.host.table.prune c w.isActive).2 := rfl

/-- Counting a channel's listeners and then cancelling an active subscription is cancelling it and
then counting, provided the removal finds the same on the pruned table and pruning the cancelled
world's table after the removal is pruning it with the old flags. -/
theorem cancel_liveCount_of {s : Subscription} (c : Channel) (hl : w.host.registersLocally = true)
    (hact : w.isActive s.listener = true)
    (hfound : ((w.host.table.prune c w.isActive).2.unlisten s.channel s.registration).1 =
      (w.host.table.unlisten s.channel s.registration).1)
    (htable : ((w.host.table.prune c w.isActive).2.unlisten s.channel s.registration).2 =
      ((w.host.table.unlisten s.channel s.registration).2.prune c (w.cancel s).isActive).2) :
    (w.liveCount c).2.cancel s = ((w.cancel s).liveCount c).2 := by
  have hact' : (w.setTable (w.host.table.prune c w.isActive).2).isActive s.listener = true := hact
  have hhost := Host.unlisten_setTable hl (w.host.table.prune c w.isActive).2 s.channel
    s.registration hfound
  obtain ⟨hfound', htable'⟩ := Host.unlisten_of_registersLocally hl s.channel s.registration
  have hcancel : (w.cancel s).host.table = (w.host.table.unlisten s.channel s.registration).2 := by
    rw [host_cancel_of_active w hact, htable']
  rw [liveCount_snd, liveCount_snd, hcancel, ← htable]
  unfold cancel
  rw [if_pos hact', if_pos hact]
  obtain ⟨ch, id, l, b⟩ := s
  cases b <;> simp [hostUnlisten, retire, setHost, setTable, bump, logEvent, stats, hhost, hfound']

/-- In a session with the registration correspondence, cancelling a handle's subscription after
counting a channel's listeners is cancelling it and then counting: the removal finds the same and
leaves the same table, the flags and counters change alike, and the same cancellation is logged. -/
theorem Consistent.cancel_liveCount (hw : w.Consistent) {n : String} {h : Handle}
    (hm : (n, h) ∈ w.handles) (c : Channel) :
    (w.liveCount c).2.cancel h.subscription = ((w.cancel h.subscription).liveCount c).2 := by
  by_cases hact : w.isActive h.subscription.listener = true
  · have hreg := hw.active_registered hm hact
    -- the only registration of the channel with the subscription's id is its own, which is active
    have hid : ∀ reg ∈ w.host.table.entries h.subscription.channel,
        reg.id = h.subscription.registration → w.isActive reg.listener = true := by
      intro reg hr he
      rw [Registration.eq_of_id_eq (hw.ids_increase _) hr hreg he]
      exact hact
    obtain ⟨hfound, hcomm⟩ := Registry.unlisten_prune w.host.table c h.subscription.channel
      w.isActive h.subscription.registration hid
    refine cancel_liveCount_of c hw.registersLocally hact hfound ?_
    rw [hcomm]
    congr 1
    -- after the removal no registration holds the subscription's listener, the one flag that moved
    refine Registry.prune_congr fun reg hr => (isActive_cancel_of_ne w _ ?_).symm
    rintro hl
    have hr₀ := Registry.entries_unlisten_subset _ _ _ _ hr
    obtain ⟨rfl, rfl⟩ := hw.listeners_apart hr₀ hreg hl
    obtain ⟨-, ⟨pre, post, hsplit, herase⟩, -⟩ := hw.unlisten_own hm hact
    obtain ⟨-, htable⟩ := Host.unlisten_of_registersLocally hw.registersLocally
      h.subscription.channel h.subscription.registration
    rw [← htable, herase] at hr
    have hnodup : (w.host.table.entries h.subscription.channel).Nodup :=
      (hw.ids_increase _).imp fun hlt e => Nat.ne_of_lt hlt (congrArg Registration.id e)
    rw [hsplit] at hnodup
    exact (List.nodup_cons.1 (List.nodup_middle.1 hnodup)).1 hr
  · have hinactive : w.isActive h.subscription.listener = false := by simpa using hact
    have hinactive' : (w.liveCount c).2.isActive h.subscription.listener = false := by
      rw [isActive_congr (listeners_liveCount w c)]
      exact hinactive
    rw [cancel_of_inactive hinactive', cancel_of_inactive hinactive]

/-- Counting a channel's listeners keeps every channel's active registrations, in their order. -/
theorem filter_entries_liveCount (w : World) (c d : Channel) :
    ((w.liveCount c).2.host.table.entries d).filter (fun reg => (w.liveCount c).2.isActive reg.listener) =
      (w.host.table.entries d).filter fun reg => w.isActive reg.listener := by
  rw [isActive_congr (listeners_liveCount w c), liveCount_snd, setTable, Host.table_setTable]
  exact Registry.filter_entries_prune _ c d _

end World

/-- Lazy pruning is exact. For every table and channel `c`, pruning `c` hands back the listeners of
exactly the active registrations of `c`, in list order. Afterwards `c`'s entry holds those
registrations and is gone when none is left, so an absent entry stays absent; every other channel
keeps its entry, and the id counters and the closed flag are unchanged. Consequently every
channel's active registrations stay in their order, and a later removal of an active registration
finds the same as without the prune and leaves the table it would have left, pruned.

In a session, counting a channel's listeners is this prune, and delivering on the channel begins
with the same prune before it logs and calls the listeners. Counting keeps every channel's active
registrations; and in every reachable world, counting and then cancelling any handle's
subscription is cancelling it and then counting, so the cancellation finds, removes, retires,
counts and logs the same. -/
theorem pruning_exact :
    (∀ (r : Registry) (c : Channel) (active : Nat → Bool),
      (r.prune c active).1 = ((r.entries c).filter fun reg => active reg.listener).map (·.listener) ∧
      (∀ d, (r.prune c active).2.table.get d =
        if d = c then (r.table.get c).bind fun list =>
          if list.filter (fun reg => active reg.listener) = [] then none
          else some (list.filter fun reg => active reg.listener)
        else r.table.get d) ∧
      (r.prune c active).2.registrations = r.registrations ∧
      (r.prune c active).2.events = r.events ∧ (r.prune c active).2.closed = r.closed ∧
      (∀ d, ((r.prune c active).2.entries d).filter (fun reg => active reg.listener) =
        (r.entries d).filter fun reg => active reg.listener) ∧
      (∀ d id, (∀ reg ∈ r.entries d, reg.id = id → active reg.listener = true) →
        ((r.prune c active).2.unlisten d id).1 = (r.unlisten d id).1 ∧
        ((r.prune c active).2.unlisten d id).2 = ((r.unlisten d id).2.prune c active).2)) ∧
    (∀ (w : World) (e : Envelope), w.deliverLocal e =
      ((w.liveCount e.channel).2.logEvent (.deliveringEnvelope e.channel e.id
        (w.liveCount e.channel).1)).deliverTo (w.host.table.prune e.channel w.isActive).1 e) ∧
    (∀ (w : World) (c d : Channel),
      ((w.liveCount c).2.host.table.entries d).filter
          (fun reg => (w.liveCount c).2.isActive reg.listener) =
        (w.host.table.entries d).filter fun reg => w.isActive reg.listener) ∧
    (∀ w : World, w.Reachable → ∀ (c : Channel) (n : String) (h : Handle), (n, h) ∈ w.handles →
      (w.liveCount c).2.cancel h.subscription = ((w.cancel h.subscription).liveCount c).2) := by
  refine ⟨fun r c active => ?_, fun w e => rfl, World.filter_entries_liveCount,
    fun w hw c n h hm => hw.consistent.cancel_liveCount hm c⟩
  obtain ⟨hclosed, hevents, hreg⟩ := r.prune_frame c active
  exact ⟨r.prune_fst c active, fun d => r.table_prune c d active, hreg, hevents, hclosed,
    fun d => r.filter_entries_prune c d active, fun d id hid => r.unlisten_prune c d active id hid⟩

end ChannelBridge
