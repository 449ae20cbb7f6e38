import ChannelBridge.Host.Registry
import Mathlib.Data.List.Pairwise
import Mathlib.Data.List.Range

/-! # The ids a local host issues

A local host numbers two things with 64-bit counters: the events it emits or sends, and the
registrations it accepts. Each counter wraps around modulo `2^64`, and the id it hands out is one
more than the count before, held at `2^64 - 1`. Every call on the host's table either leaves a
counter alone or issues one id from it; a registration refused because the host is closed issues
none.

So over any run from a fresh host the `k`-th id of each kind is `k % 2^64`, except that a multiple
of `2^64` gets `2^64 - 1` (`IdLaw`): the ids count `1, 2, 3, …` up to `2^64 - 1`, the `2^64`-th
repeats `2^64 - 1`, and then they start again at `1`. They increase strictly exactly as long as
fewer than `2^64` have been issued.

* `Registry.Call`, `Registry.runCalls`: the calls on a table, run in order, with the ids they issue.
* `IdCounter.firstIds`: the ids a fresh counter hands out; `IdCounter.idLaw_firstIds`.
* `ids_issued_in_order`: both kinds of id, over every run of a fresh host.
-/

namespace ChannelBridge

namespace IdCounter

/-- The id the `k`-th issue of a fresh counter hands out, counting issues from one. -/
def nthId (k : Nat) : Nat := if k % 2 ^ 64 = 0 then 2 ^ 64 - 1 else k % 2 ^ 64

/-- The ids of the first `n` issues of a fresh counter, in order. -/
def firstIds (n : Nat) : List Nat := (List.range n).map fun j => nthId (j + 1)

@[simp] theorem length_firstIds (n : Nat) : (firstIds n).length = n := by simp [firstIds]

theorem firstIds_succ (n : Nat) : firstIds (n + 1) = firstIds n ++ [nthId (n + 1)] := by
  simp [firstIds, List.range_succ]

/-- A counter that has issued `i` ids since it was fresh hands out the `i + 1`-th. -/
theorem issue_of_count {c : IdCounter} {i : Nat} (h : c.count.toNat = i % 2 ^ 64) :
    c.issue.1 = nthId (i + 1) ∧ c.issue.2.count.toNat = (i + 1) % 2 ^ 64 := by
  refine ⟨?_, ?_⟩
  · show (if c.count.toNat = 2 ^ 64 - 1 then 2 ^ 64 - 1 else c.count.toNat + 1) = nthId (i + 1)
    rw [h, nthId]
    -- the count is at its last value exactly when one more is a multiple of `2^64`
    by_cases hlast : i % 2 ^ 64 = 2 ^ 64 - 1
    · rw [if_pos hlast, if_pos (by omega)]
    · rw [if_neg hlast, if_neg (by omega)]
      omega
  · simp only [issue, UInt64.toNat_add, UInt64.toNat_one, h]
    omega

/-! ## The law of the ids -/

/-- Below `2^64` the `k`-th id is `k`. -/
theorem nthId_of_lt {k : Nat} (h₀ : 0 < k) (h : k < 2 ^ 64) : nthId k = k := by
  rw [nthId, if_neg (by omega)]
  omega

/-- What a list of ids issued one after another looks like: the `k`-th is `k % 2^64`, a multiple
of `2^64` getting `2^64 - 1`; so they are `1, 2, 3, …` while fewer than `2^64` were issued, and
they increase strictly exactly then. -/
structure IdLaw (ids : List Nat) : Prop where
  nth : ∀ j (h : j < ids.length), ids[j] = if (j + 1) % 2 ^ 64 = 0 then 2 ^ 64 - 1 else (j + 1) % 2 ^ 64
  counting : ids.length < 2 ^ 64 → ids = List.range' 1 ids.length
  increasing_iff : ids.Pairwise (· < ·) ↔ ids.length < 2 ^ 64

/-- Below `2^64` issues, a fresh counter counts from one. -/
theorem firstIds_of_lt {n : Nat} (h : n < 2 ^ 64) : firstIds n = List.range' 1 n := by
  apply List.ext_getElem (by simp)
  intro j h₁ h₂
  simp only [firstIds, List.getElem_map, List.getElem_range, List.getElem_range']
  rw [nthId_of_lt (by omega) (by simp at h₁; omega)]
  omega

/-- The `2^64 - 1`-th and the `2^64`-th ids are both `2^64 - 1`, so from `2^64` issues on the ids
no longer increase. -/
theorem not_pairwise_firstIds {n : Nat} (h : 2 ^ 64 ≤ n) : ¬(firstIds n).Pairwise (· < ·) := by
  rw [List.pairwise_iff_getElem]
  intro hlt
  have hrepeat := hlt (2 ^ 64 - 2) (2 ^ 64 - 1) (by simp; omega) (by simp; omega) (by omega)
  simp only [firstIds, List.getElem_map, List.getElem_range, nthId] at hrepeat
  split at hrepeat <;> split at hrepeat <;> omega

theorem idLaw_firstIds (n : Nat) : IdLaw (firstIds n) where
  nth j h := by simp [firstIds, nthId]
  counting h := by
    rw [length_firstIds] at h ⊢
    exact firstIds_of_lt h
  increasing_iff := by
    rw [length_firstIds]
    constructor
    · intro hp
      by_contra hge
      exact not_pairwise_firstIds (by omega) hp
    · intro h
      rw [firstIds_of_lt h]
      exact List.pairwise_lt_range'

end IdCounter

namespace Registry

/-- A call on a local host's table. Emitting and sending take an event id; registering takes a
registration id unless the host is closed; removing a registration, pruning a channel (which
delivering and counting listeners do) and closing take none. -/
inductive Call where
  | listen (c : Channel) (listener : Nat)
  | unlisten (c : Channel) (id : Nat)
  | prune (c : Channel) (active : Nat → Bool)
  | nextEvent
  | close

/-- Makes a call: the event id and the registration id it issued, if any, and the table after. -/
def apply (t : Registry) : Call → Option Nat × Option Nat × Registry
  | .listen c l =>
    match t.listen c l with
    | some (id, t') => (none, some id, t')
    | none => (none, none, t)
  | .unlisten c id => (none, none, (t.unlisten c id).2)
  | .prune c active => (none, none, (t.prune c active).2)
  | .nextEvent => (some t.nextEvent.1, none, t.nextEvent.2)
  | .close => (none, none, t.close.2)

/-- Makes calls in order: the event ids and the registration ids issued, in order, and the table
after. -/
def runCalls (t : Registry) (calls : List Call) : List Nat × List Nat × Registry :=
  calls.foldl (fun (events, regs, t) call =>
    let (e, r, t') := t.apply call
    (events ++ e.toList, regs ++ r.toList, t')) ([], [], t)

/-- What one call does to the event counter: leaves it, or issues the next id from it. -/
theorem apply_events (t : Registry) (call : Call) :
    ((t.apply call).1 = none ∧ (t.apply call).2.2.events = t.events) ∨
    ((t.apply call).1 = some t.events.issue.1 ∧ (t.apply call).2.2.events = t.events.issue.2) := by
  cases call with
  | listen c l =>
    left
    simp only [apply]
    cases hl : t.listen c l with
    | none => exact ⟨rfl, rfl⟩
    | some p => exact ⟨rfl, (listen_frame hl).2⟩
  | unlisten c id => exact .inl ⟨rfl, (unlisten_frame t c id).2.1⟩
  | prune c active => exact .inl ⟨rfl, (prune_frame t c active).2.1⟩
  | nextEvent => exact .inr ⟨rfl, rfl⟩
  | close => exact .inl ⟨rfl, rfl⟩

/-- What one call does to the registration counter: a registration the table takes issues the next
id from it; every other call, a refused registration included, leaves it. -/
theorem apply_registrations (t : Registry) (call : Call) :
    ((t.apply call).2.1 = none ∧ (t.apply call).2.2.registrations = t.registrations) ∨
    ((t.apply call).2.1 = some t.registrations.issue.1 ∧
      (t.apply call).2.2.registrations = t.registrations.issue.2) := by
  cases call with
  | listen c l =>
    simp only [apply]
    cases hl : t.listen c l with
    | none => exact .inl ⟨rfl, rfl⟩
    | some p =>
      obtain ⟨id, t'⟩ := p
      obtain ⟨-, hid, hcount⟩ := listen_eq_some hl
      exact .inr ⟨by rw [hid], hcount⟩
  | unlisten c id => exact .inl ⟨rfl, (unlisten_frame t c id).2.2⟩
  | prune c active => exact .inl ⟨rfl, (prune_frame t c active).2.2⟩
  | nextEvent => exact .inl ⟨rfl, rfl⟩
  | close => exact .inl ⟨rfl, rfl⟩

theorem runCalls_append (t : Registry) (calls : List Call) (call : Call) :
    t.runCalls (calls ++ [call]) =
      ((t.runCalls calls).1 ++ ((t.runCalls calls).2.2.apply call).1.toList,
        (t.runCalls calls).2.1 ++ ((t.runCalls calls).2.2.apply call).2.1.toList,
        ((t.runCalls calls).2.2.apply call).2.2) := by
  simp [runCalls, List.foldl_append]

/-- One step of a counter along a run: the ids so far are the first ones of a fresh counter and the
count is their number, and a call that leaves the counter or issues one id from it keeps that. -/
theorem firstIds_step {ids : List Nat} {c c' : IdCounter} {o : Option Nat}
    (hids : ids = IdCounter.firstIds ids.length) (hc : c.count.toNat = ids.length % 2 ^ 64)
    (hstep : (o = none ∧ c' = c) ∨ (o = some c.issue.1 ∧ c' = c.issue.2)) :
    ids ++ o.toList = IdCounter.firstIds (ids ++ o.toList).length ∧
      c'.count.toNat = (ids ++ o.toList).length % 2 ^ 64 := by
  rcases hstep with ⟨rfl, rfl⟩ | ⟨rfl, rfl⟩
  · simpa using ⟨hids, hc⟩
  · obtain ⟨hid, hcount⟩ := IdCounter.issue_of_count hc
    refine ⟨?_, by simpa using hcount⟩
    simp only [Option.toList_some, List.length_append, List.length_singleton,
      IdCounter.firstIds_succ, hid]
    rw [← hids]

/-- Over every run from a fresh table, the ids of each kind are the first ones a fresh counter
hands out, and each counter counts them. -/
theorem runCalls_empty (calls : List Call) :
    (empty.runCalls calls).1 = IdCounter.firstIds (empty.runCalls calls).1.length ∧
    (empty.runCalls calls).2.2.events.count.toNat = (empty.runCalls calls).1.length % 2 ^ 64 ∧
    (empty.runCalls calls).2.1 = IdCounter.firstIds (empty.runCalls calls).2.1.length ∧
    (empty.runCalls calls).2.2.registrations.count.toNat =
      (empty.runCalls calls).2.1.length % 2 ^ 64 := by
  -- induction on the calls from the last one, which is the one the fold makes last
  induction calls using List.reverseRecOn with
  | nil => exact ⟨rfl, rfl, rfl, rfl⟩
  | append_singleton calls call ih =>
    obtain ⟨hev, hevc, hreg, hregc⟩ := ih
    rw [runCalls_append]
    obtain ⟨hev', hevc'⟩ := firstIds_step hev hevc (apply_events _ call)
    obtain ⟨hreg', hregc'⟩ := firstIds_step hreg hregc (apply_registrations _ call)
    exact ⟨hev', hevc', hreg', hregc'⟩

end Registry

/-- Over every run of a local host, from fresh, the event ids issued by emitting and sending and
the registration ids issued by accepted registrations each follow the law of a wrapping 64-bit
counter held at its last value: the `k`-th id is `k` for `k < 2^64`, the `2^64`-th repeats
`2^64 - 1`, the ids start again at `1` after it, and they increase strictly exactly while fewer
than `2^64` of them were issued. -/
theorem ids_issued_in_order (calls : List Registry.Call) :
    IdCounter.IdLaw (Registry.empty.runCalls calls).1 ∧
    IdCounter.IdLaw (Registry.empty.runCalls calls).2.1 := by
  obtain ⟨hev, -, hreg, -⟩ := Registry.runCalls_empty calls
  rw [hev, hreg]
  exact ⟨IdCounter.idLaw_firstIds _, IdCounter.idLaw_firstIds _⟩

end ChannelBridge
