import ChannelBridge.Host.Registry

/-! # Hosts

A host is where listeners are registered and envelopes come from. Five kinds are modelled:

* `local`: a registration table (`Registry`).
* `counting`: a local host that counts `listen` calls, `unlisten` calls and actual removals.
* `delayed`: a local host whose `listen` stores the registration at once but acknowledges it only
  after a pause; `acknowledged` counts the acknowledgements.
* `failing`: refuses every registration, counting attempts and removals.
* `broadcast`: keeps every registration in one list and hands every envelope to every listener,
  whatever channel it was registered on.

Emitting, delivering, counting listeners and closing always act on a local table: the wrapped one,
or for the last two kinds a spare table of their own (`table`).
-/

namespace ChannelBridge

/-- Why a host refused a registration. -/
inductive HostError where
  /-- The host could not be reached. -/
  | unreachable (reason : String)
  /-- The host refused to register a listener on a channel. -/
  | rejected (channel : Channel) (reason : String)
  /-- The host is closed. -/
  | closed
  deriving DecidableEq, Repr

namespace HostError

/-- The error's kind, as a name. -/
def kind : HostError → String
  | .unreachable _ => "Unreachable"
  | .rejected _ _ => "Rejected"
  | .closed => "Closed"

/-- The error's message. -/
def message : HostError → String
  | .unreachable _ => "host registry unreachable"
  | .rejected _ _ => "host registry rejected the registration"
  | .closed => "host registry is closed"

end HostError

/-- How a failing host refuses. -/
inductive Refusal where
  /-- Every registration fails as unreachable, with reason "transport down". -/
  | unreachable
  /-- Every registration is rejected with the given reason. -/
  | rejecting (reason : String)
  deriving DecidableEq, Repr

/-- The error a refusal gives for a registration on `c`. -/
def Refusal.error (r : Refusal) (c : Channel) : HostError :=
  match r with
  | .unreachable => .unreachable "transport down"
  | .rejecting reason => .rejected c reason

/-- The registrations of a broadcasting host, in registration order, with the channel each was
made on; ids are `1, 2, 3, …`. -/
structure Broadcast where
  entries : List (Channel × Registration)
  issued : Nat
  deriving Repr

namespace Broadcast

/-- No registrations. -/
def empty : Broadcast := ⟨[], 0⟩

/-- Appends a registration with the next id. -/
def listen (b : Broadcast) (c : Channel) (listener : Nat) : Nat × Broadcast :=
  (b.issued + 1, ⟨b.entries ++ [(c, ⟨b.issued + 1, listener⟩)], b.issued + 1⟩)

/-- Removes the registration with `id`, on whatever channel; says whether there was one. -/
def unlisten (b : Broadcast) (id : Nat) : Bool × Broadcast :=
  if b.entries.any (fun e => e.2.id == id) then
    (true, { b with entries := b.entries.eraseP fun e => e.2.id == id })
  else (false, b)

/-- Every listener held, in registration order. -/
def listeners (b : Broadcast) : List Nat := b.entries.map (·.2.listener)

/-- The number of active listeners registered on `c`. -/
def count (b : Broadcast) (c : Channel) (active : Nat → Bool) : Nat :=
  (b.entries.filter fun e => e.1 == c && active e.2.listener).length

end Broadcast

/-- A host. -/
inductive Host where
  | local (table : Registry)
  | counting (table : Registry) (listens unlistens removed : Nat)
  | delayed (table : Registry) (acknowledged : Nat)
  | failing (refusal : Refusal) (attempts removals : Nat) (spare : Registry)
  | broadcast (fan : Broadcast) (spare : Registry)
  deriving Repr

namespace Host

/-- The local table that emitting, delivering, counting and closing act on. -/
def table : Host → Registry
  | .local t => t
  | .counting t _ _ _ => t
  | .delayed t _ => t
  | .failing _ _ _ t => t
  | .broadcast _ t => t

/-- Replaces the local table. -/
def setTable (h : Host) (t : Registry) : Host :=
  match h with
  | .local _ => .local t
  | .counting _ a b c => .counting t a b c
  | .delayed _ a => .delayed t a
  | .failing r a b _ => .failing r a b t
  | .broadcast f _ => .broadcast f t

@[simp] theorem table_setTable (h : Host) (t : Registry) : (h.setTable t).table = t := by
  cases h <;> rfl

/-- Whether registrations go into the local table (the host is local, counting or delayed). -/
def registersLocally : Host → Bool
  | .local _ | .counting .. | .delayed .. => true
  | _ => false

/-- Whether the host acknowledges a stored registration only after a pause. -/
def acknowledgesLater : Host → Bool
  | .delayed .. => true
  | _ => false

/-- Stores a registration of `listener` on `c`, before any acknowledgement. -/
def register (h : Host) (c : Channel) (listener : Nat) : Except HostError Nat × Host :=
  match h with
  | .local t =>
    match t.listen c listener with
    | some (id, t') => (.ok id, .local t')
    | none => (.error .closed, h)
  | .counting t listens unlistens removed =>
    match t.listen c listener with
    | some (id, t') => (.ok id, .counting t' (listens + 1) unlistens removed)
    | none => (.error .closed, .counting t (listens + 1) unlistens removed)
  | .delayed t acknowledged =>
    match t.listen c listener with
    | some (id, t') => (.ok id, .delayed t' acknowledged)
    | none => (.error .closed, h)
  | .failing r attempts removals spare => (.error (r.error c), .failing r (attempts + 1) removals spare)
  | .broadcast fan spare =>
    let (id, fan') := fan.listen c listener
    (.ok id, .broadcast fan' spare)

/-- Completes a stored registration: a delayed host counts its acknowledgement. -/
def acknowledge : Host → Host
  | .delayed t acknowledged => .delayed t (acknowledged + 1)
  | h => h

/-- Registers `listener` on `c` and waits for the acknowledgement. -/
def listen (h : Host) (c : Channel) (listener : Nat) : Except HostError Nat × Host :=
  match h.register c listener with
  | (.ok id, h') => (.ok id, h'.acknowledge)
  | (.error e, h') => (.error e, h')

/-- Removes the registration `id` on `c`; says whether there was one. -/
def unlisten (h : Host) (c : Channel) (id : Nat) : Bool × Host :=
  match h with
  | .local t =>
    let (found, t') := t.unlisten c id
    (found, .local t')
  | .counting t listens unlistens removed =>
    let (found, t') := t.unlisten c id
    (found, .counting t' listens (unlistens + 1) (if found then removed + 1 else removed))
  | .delayed t acknowledged =>
    let (found, t') := t.unlisten c id
    (found, .delayed t' acknowledged)
  | .failing r attempts removals spare => (false, .failing r attempts (removals + 1) spare)
  | .broadcast fan spare =>
    let (found, fan') := fan.unlisten id
    (found, .broadcast fan' spare)

@[simp] theorem registersLocally_setTable (h : Host) (t : Registry) :
    (h.setTable t).registersLocally = h.registersLocally := by
  cases h <;> rfl

@[simp] theorem registersLocally_acknowledge (h : Host) :
    h.acknowledge.registersLocally = h.registersLocally := by
  cases h <;> rfl

@[simp] theorem table_acknowledge (h : Host) : h.acknowledge.table = h.table := by
  cases h <;> rfl

@[simp] theorem registersLocally_register (h : Host) (c : Channel) (l : Nat) :
    (h.register c l).2.registersLocally = h.registersLocally := by
  cases h <;> simp only [register] <;> (try split) <;> rfl

@[simp] theorem registersLocally_unlisten (h : Host) (c : Channel) (id : Nat) :
    (h.unlisten c id).2.registersLocally = h.registersLocally := by
  cases h <;> rfl

/-- A host that registers locally removes from its table. -/
theorem unlisten_of_registersLocally {h : Host} (hl : h.registersLocally = true) (c : Channel)
    (id : Nat) : (h.unlisten c id).1 = (h.table.unlisten c id).1 ∧
      (h.unlisten c id).2.table = (h.table.unlisten c id).2 := by
  cases h <;> simp_all [registersLocally, unlisten, table]

/-- A host that registers locally stores a registration in its table when the table takes it. -/
theorem register_of_listen {h : Host} (hl : h.registersLocally = true) {c : Channel} {l id : Nat}
    {t : Registry} (hlisten : h.table.listen c l = some (id, t)) :
    (h.register c l).1 = .ok id ∧ (h.register c l).2.table = t := by
  cases h <;> simp_all [registersLocally, register, table]

/-- A host that registers locally refuses a registration its table does not take, as closed. -/
theorem register_of_listen_none {h : Host} (hl : h.registersLocally = true) {c : Channel}
    {l : Nat} (hlisten : h.table.listen c l = none) :
    (h.register c l).1 = .error .closed ∧ (h.register c l).2.table = h.table := by
  cases h <;> simp_all [registersLocally, register, table]

/-- On a host that registers locally, a registration that succeeds is one the table took. -/
theorem listen_of_register_ok {h : Host} (hl : h.registersLocally = true) {c : Channel} {l id : Nat}
    (hr : (h.register c l).1 = .ok id) : h.table.listen c l = some (id, (h.register c l).2.table) := by
  cases hlisten : h.table.listen c l with
  | none =>
    rw [(register_of_listen_none hl hlisten).1] at hr
    cases hr
  | some p =>
    obtain ⟨id', t⟩ := p
    obtain ⟨hok, htable⟩ := register_of_listen hl hlisten
    rw [hok] at hr
    cases hr
    rw [htable]

/-- On a host that registers locally, a registration that fails leaves the table. -/
theorem table_of_register_error {h : Host} (hl : h.registersLocally = true) {c : Channel} {l : Nat}
    {e : HostError} (hr : (h.register c l).1 = .error e) : (h.register c l).2.table = h.table := by
  cases hlisten : h.table.listen c l with
  | none => exact (register_of_listen_none hl hlisten).2
  | some p =>
    rw [(register_of_listen hl hlisten).1] at hr
    cases hr

/-- Every listener the host holds a registration of. -/
def held (h : Host) : List Nat :=
  match h with
  | .broadcast fan spare => fan.listeners ++ spare.listeners
  | _ => h.table.listeners

/-- The host's own counters, by name. -/
def counts : Host → List (String × Nat)
  | .counting _ listens unlistens removed =>
    [("listens", listens), ("unlistens", unlistens), ("removed", removed)]
  | .failing _ attempts removals _ => [("attempts", attempts), ("removals", removals)]
  | .delayed _ acknowledged => [("acknowledged", acknowledged)]
  | _ => []

end Host

end ChannelBridge
