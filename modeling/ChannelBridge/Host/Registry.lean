import ChannelBridge.Channel

/-! # The registration table of a local host

A local host keeps, for each channel, the list of its registrations in the order they were made.
A registration pairs the id the host issued with the listener it holds. Listeners are named by
numbers; whether a listener is still active is decided outside the table and passed in.

* `listen` appends a registration with the next id, unless the host is closed.
* `unlisten` removes the registration with a given id from one channel's list.
* `prune` drops the retired registrations of one channel and returns the active listeners, in order.
* `close` empties the table and refuses later registrations.

The table has an entry for a channel only while that channel has registrations: a channel whose
list becomes empty loses its entry, and `entryCount` counts the channels that have one. Ids come from
a 64-bit counter: the `k`-th id issued is `k`.
-/

namespace ChannelBridge

/-- One value per channel. -/
structure ChannelMap (α : Type) where
  appServerEvent : α
  dictationDownload : α
  dictationEvent : α
  terminalOutput : α
  updaterCheck : α
  deriving Repr

namespace ChannelMap

/-- The same value for every channel. -/
def const {α : Type} (a : α) : ChannelMap α := ⟨a, a, a, a, a⟩

/-- The value of a channel. -/
def get {α : Type} (m : ChannelMap α) : Channel → α
  | .appServerEvent => m.appServerEvent
  | .dictationDownload => m.dictationDownload
  | .dictationEvent => m.dictationEvent
  | .terminalOutput => m.terminalOutput
  | .updaterCheck => m.updaterCheck

/-- Replaces the value of a channel. -/
def set {α : Type} (m : ChannelMap α) (c : Channel) (a : α) : ChannelMap α :=
  match c with
  | .appServerEvent => { m with appServerEvent := a }
  | .dictationDownload => { m with dictationDownload := a }
  | .dictationEvent => { m with dictationEvent := a }
  | .terminalOutput => { m with terminalOutput := a }
  | .updaterCheck => { m with updaterCheck := a }

@[simp] theorem get_set_self {α : Type} (m : ChannelMap α) (c : Channel) (a : α) :
    (m.set c a).get c = a := by
  cases c <;> rfl

@[simp] theorem get_set_of_ne {α : Type} (m : ChannelMap α) {c d : Channel} (a : α) (h : d ≠ c) :
    (m.set c a).get d = m.get d := by
  cases c <;> cases d <;> first | rfl | exact absurd rfl h

@[simp] theorem get_const {α : Type} (a : α) (c : Channel) : (const a).get c = a := by
  cases c <;> rfl

end ChannelMap

/-- A counter that issues 64-bit ids: it wraps around after `2^64 - 1`, and an id is one more than
the count before it, held at `2^64 - 1`. -/
structure IdCounter where
  count : UInt64
  deriving DecidableEq, Repr

namespace IdCounter

/-- A counter that has issued nothing. -/
def zero : IdCounter := ⟨0⟩

/-- The next id and the counter after it. -/
def issue (c : IdCounter) : Nat × IdCounter :=
  let id := if c.count.toNat = 2 ^ 64 - 1 then 2 ^ 64 - 1 else c.count.toNat + 1
  (id, ⟨c.count + 1⟩)

/-- Until the count reaches `2^64 - 1`, the id issued is one more than the count, and the count
goes up by one. -/
theorem issue_of_lt {c : IdCounter} (h : c.count.toNat < 2 ^ 64 - 1) :
    c.issue.1 = c.count.toNat + 1 ∧ c.issue.2.count.toNat = c.count.toNat + 1 := by
  have hne : c.count.toNat ≠ 2 ^ 64 - 1 := by omega
  refine ⟨?_, ?_⟩
  · show (if c.count.toNat = 2 ^ 64 - 1 then 2 ^ 64 - 1 else c.count.toNat + 1) = c.count.toNat + 1
    exact if_neg hne
  · simp only [issue, UInt64.toNat_add, UInt64.toNat_one]
    omega

end IdCounter

/-- A registration: the id a host issued and the listener it holds. -/
structure Registration where
  id : Nat
  listener : Nat
  deriving DecidableEq, Repr

/-- The registration table of a local host, with its id counters and whether it is closed. A channel
without an entry maps to `none`. -/
structure Registry where
  table : ChannelMap (Option (List Registration))
  registrations : IdCounter
  events : IdCounter
  closed : Bool
  deriving Repr

namespace Registry

/-- A host with no registrations. -/
def empty : Registry := ⟨ChannelMap.const none, .zero, .zero, false⟩

/-- The registrations of a channel, in the order they were made; none when it has no entry. -/
def entries (r : Registry) (c : Channel) : List Registration := (r.table.get c).getD []

/-- Writes back the list of a channel, removing the channel's entry when the list is empty. -/
def store (r : Registry) (c : Channel) (list : List Registration) : Registry :=
  { r with table := r.table.set c (if list.isEmpty then none else some list) }

/-- Appends a registration of `listener` on `c` with the next id, making the channel's entry if it
has none; `none` when the host is closed. -/
def listen (r : Registry) (c : Channel) (listener : Nat) : Option (Nat × Registry) :=
  if r.closed then none
  else
    let (id, counter) := r.registrations.issue
    some (id, { r with table := r.table.set c (some (r.entries c ++ [⟨id, listener⟩])),
                       registrations := counter })

/-- Removes the registration with `id` from `c`; says whether there was one. A channel with no
entry is left alone. -/
def unlisten (r : Registry) (c : Channel) (id : Nat) : Bool × Registry :=
  match r.table.get c with
  | none => (false, r)
  | some list => (list.any (fun reg => reg.id == id), r.store c (list.eraseP fun reg => reg.id == id))

/-- Drops the registrations of `c` whose listener is no longer active, and returns the listeners
of the others in order. -/
def prune (r : Registry) (c : Channel) (active : Nat → Bool) : List Nat × Registry :=
  match r.table.get c with
  | none => ([], r)
  | some list =>
    let live := list.filter fun reg => active reg.listener
    (live.map (·.listener), r.store c live)

/-- Issues the next event id. -/
def nextEvent (r : Registry) : Nat × Registry :=
  let (id, counter) := r.events.issue
  (id, { r with events := counter })

/-- The number of channels that have registrations. -/
def entryCount (r : Registry) : Nat :=
  (Channel.all.filter fun c => (r.table.get c).isSome).length

/-- Every listener the table holds, channel by channel. -/
def listeners (r : Registry) : List Nat :=
  Channel.all.flatMap fun c => (r.entries c).map (·.listener)

/-- Every registration the table holds with its channel, channel by channel. -/
def bindings (r : Registry) : List (Channel × Registration) :=
  Channel.all.flatMap fun c => (r.entries c).map (c, ·)

/-- Empties the table and refuses later registrations; returns the listeners that were held and
the number of channels that had registrations. -/
def close (r : Registry) : (List Nat × Nat) × Registry :=
  ((r.listeners, r.entryCount), { r with table := ChannelMap.const none, closed := true })

/-! ## The table view of each operation -/

@[simp] theorem entries_empty (c : Channel) : empty.entries c = [] := by
  simp [empty, entries]

/-- Writing back a list makes it the channel's registrations, and no other channel changes. -/
theorem entries_store (r : Registry) (c d : Channel) (list : List Registration) :
    (r.store c list).entries d = if d = c then list else r.entries d := by
  by_cases hd : d = c
  · subst hd
    cases list <;> simp [store, entries]
  · simp [store, entries, hd]

/-- A registration the table takes gets the next id of the counter, which then counts it. -/
theorem listen_eq_some {r r' : Registry} {c : Channel} {l id : Nat}
    (h : r.listen c l = some (id, r')) :
    r.closed = false ∧ id = r.registrations.issue.1 ∧ r'.registrations = r.registrations.issue.2 := by
  unfold listen at h
  split at h
  · cases h
  · cases h
    exact ⟨by simpa using ‹¬r.closed = true›, rfl, rfl⟩

theorem listen_eq_none_iff (r : Registry) (c : Channel) (l : Nat) :
    r.listen c l = none ↔ r.closed = true := by
  unfold listen
  split <;> simp_all

/-- A registration is appended to its channel's list; other channels keep theirs. -/
theorem entries_listen {r r' : Registry} {c d : Channel} {l id : Nat}
    (h : r.listen c l = some (id, r')) :
    r'.entries d = if d = c then r.entries c ++ [⟨id, l⟩] else r.entries d := by
  unfold listen at h
  split at h
  · cases h
  · cases h
    by_cases hd : d = c
    · subst hd
      simp [entries]
    · simp [entries, hd]

/-- Removing a registration erases the first one with that id from its channel's list. -/
theorem entries_unlisten (r : Registry) (c d : Channel) (id : Nat) :
    (r.unlisten c id).2.entries d =
      if d = c then (r.entries c).eraseP (fun reg => reg.id == id) else r.entries d := by
  unfold unlisten
  cases hc : r.table.get c with
  | none =>
    by_cases hd : d = c
    · subst hd
      simp [entries, hc]
    · simp [hd]
  | some list =>
    have hlist : r.entries c = list := by simp [entries, hc]
    simp only [entries_store, hlist]

/-- Pruning hands back the active listeners of the channel, in order. -/
theorem prune_fst (r : Registry) (c : Channel) (active : Nat → Bool) :
    (r.prune c active).1 = ((r.entries c).filter fun reg => active reg.listener).map (·.listener) := by
  unfold prune
  cases hc : r.table.get c <;> simp [entries, hc]

/-- Pruning keeps the active registrations of the channel, in order, and no other channel changes. -/
theorem entries_prune (r : Registry) (c d : Channel) (active : Nat → Bool) :
    (r.prune c active).2.entries d =
      if d = c then (r.entries c).filter (fun reg => active reg.listener) else r.entries d := by
  unfold prune
  cases hc : r.table.get c with
  | none =>
    by_cases hd : d = c
    · subst hd
      simp [entries, hc]
    · simp [hd]
  | some list =>
    have hlist : r.entries c = list := by simp [entries, hc]
    simp only [entries_store, hlist]

theorem mem_bindings {r : Registry} {c : Channel} {reg : Registration} :
    (c, reg) ∈ r.bindings ↔ reg ∈ r.entries c := by
  simp [bindings, Channel.mem_all]

theorem mem_listeners {r : Registry} {l : Nat} :
    l ∈ r.listeners ↔ ∃ c reg, reg ∈ r.entries c ∧ reg.listener = l := by
  simp [listeners, Channel.mem_all]

@[simp] theorem registrations_store (r : Registry) (c : Channel) (list : List Registration) :
    (r.store c list).registrations = r.registrations := rfl

@[simp] theorem registrations_unlisten (r : Registry) (c : Channel) (id : Nat) :
    (r.unlisten c id).2.registrations = r.registrations := by
  unfold unlisten
  split <;> rfl

@[simp] theorem registrations_prune (r : Registry) (c : Channel) (active : Nat → Bool) :
    (r.prune c active).2.registrations = r.registrations := by
  unfold prune
  split <;> rfl

/-- A registration leaves the table's state and its event ids. -/
theorem listen_frame {r r' : Registry} {c : Channel} {l id : Nat} (h : r.listen c l = some (id, r')) :
    r'.closed = r.closed ∧ r'.events = r.events := by
  unfold listen at h
  split at h
  · cases h
  · cases h
    exact ⟨rfl, rfl⟩

/-- A removal changes only the channel's list. -/
theorem unlisten_frame (r : Registry) (c : Channel) (id : Nat) :
    (r.unlisten c id).2.closed = r.closed ∧ (r.unlisten c id).2.events = r.events ∧
    (r.unlisten c id).2.registrations = r.registrations := by
  unfold unlisten
  split <;> exact ⟨rfl, rfl, rfl⟩

/-- Pruning changes only the channel's list. -/
theorem prune_frame (r : Registry) (c : Channel) (active : Nat → Bool) :
    (r.prune c active).2.closed = r.closed ∧ (r.prune c active).2.events = r.events ∧
    (r.prune c active).2.registrations = r.registrations := by
  unfold prune
  split <;> exact ⟨rfl, rfl, rfl⟩

/-! ## Entries are never empty

The table holds an entry for a channel only while the channel has registrations: every operation
that can empty a list removes the entry instead. -/

/-- No channel's entry holds an empty list. -/
def NoEmptyEntry (r : Registry) : Prop := ∀ c, r.table.get c ≠ some []

theorem noEmptyEntry_empty : empty.NoEmptyEntry := by
  intro c
  simp [empty]

theorem NoEmptyEntry.store {r : Registry} (h : r.NoEmptyEntry) (c : Channel)
    (list : List Registration) : (r.store c list).NoEmptyEntry := by
  intro d
  by_cases hd : d = c
  · subst hd
    cases list <;> simp [Registry.store]
  · simpa [Registry.store, hd] using h d

theorem NoEmptyEntry.unlisten {r : Registry} (h : r.NoEmptyEntry) (c : Channel) (id : Nat) :
    (r.unlisten c id).2.NoEmptyEntry := by
  unfold Registry.unlisten
  split
  · exact h
  · exact h.store _ _

theorem NoEmptyEntry.prune {r : Registry} (h : r.NoEmptyEntry) (c : Channel)
    (active : Nat → Bool) : (r.prune c active).2.NoEmptyEntry := by
  unfold Registry.prune
  split
  · exact h
  · exact h.store _ _

theorem NoEmptyEntry.listen {r r' : Registry} (h : r.NoEmptyEntry) {c : Channel} {l id : Nat}
    (hl : r.listen c l = some (id, r')) : r'.NoEmptyEntry := by
  unfold Registry.listen at hl
  split at hl
  · cases hl
  · cases hl
    intro d
    by_cases hd : d = c
    · subst hd
      simp
    · simpa [hd] using h d

theorem noEmptyEntry_close (r : Registry) : r.close.2.NoEmptyEntry := by
  intro c
  simp [close]

/-- A closed table holds nothing. -/
theorem entries_close (r : Registry) (c : Channel) : r.close.2.entries c = [] := by
  simp [close, entries]

theorem closed_close (r : Registry) : r.close.2.closed = true := rfl

end Registry

end ChannelBridge
