import ChannelBridge.Proofs.Config.Grammar
import ChannelBridge.Session.Dispatch
import Mathlib.Data.Nat.Digits.Lemmas

/-! # Starting the dispatcher with a configured capacity

The configured capacity is handed to the dispatcher, which raises it to one and asks the runtime for
a bounded queue of that many slots. The runtime counts the slots of a queue with a semaphore that
holds at most `usize::MAX >> 3 = 2^61 - 1` permits, and asking for more panics (`QueueBounds`).

The reader accepts every capacity from `1` to `2^64 - 1` (`capacity_accepted_iff`), and the
dispatcher only raises the capacity from below, so nothing keeps an accepted capacity under the
runtime's bound: the start works exactly for the accepted capacities below `2^61`, and every
accepted capacity from `2^61` to `2^64 - 1` makes it panic (`spawnOn_accepted_iff`). The smallest of
them, `2305843009213693952`, is read from its text and refused (`spawnOn_refuses_accepted_capacity`).
-/

namespace ChannelBridge

/-- What the runtime promises of its bounded queues: one of `b` slots is made exactly when
`0 < b ≤ usize::MAX >> 3`; asked for any other size it panics. -/
def QueueBounds (makeQueue : Nat → Bool) : Prop :=
  ∀ b, makeQueue b = true ↔ 0 < b ∧ b ≤ (2 ^ 64 - 1) >>> 3

namespace Dispatcher

/-- With the runtime's bound, a dispatcher starts exactly when its capacity is below `2^61`: a
capacity of zero is raised to one, and nothing bounds it from above. -/
theorem spawnOn_isSome_iff {makeQueue : Nat → Bool} (hq : QueueBounds makeQueue) (capacity : Nat) :
    (spawnOn makeQueue capacity).isSome ↔ capacity < 2 ^ 61 := by
  have hbound : (2 ^ 64 - 1) >>> 3 = 2 ^ 61 - 1 := by decide
  unfold spawnOn
  rw [apply_ite Option.isSome, Option.isSome_some, Option.isSome_none]
  by_cases h : makeQueue (max capacity 1) = true
  · obtain ⟨-, hle⟩ := (hq _).1 h
    rw [hbound] at hle
    simp only [h, if_true, true_iff]
    omega
  · simp only [h, Bool.false_eq_true, if_false, false_iff, not_lt]
    rw [hq, hbound] at h
    omega

end Dispatcher

namespace Text

/-- A text with no blank character is its own trim. -/
theorem trimBlank_of_not_blank {s : String} (h : ∀ c ∈ s.toList, isBlank c = false) :
    trimBlank s = s := by
  have hkeep : ∀ l : List Char, (∀ c ∈ l, isBlank c = false) → l.dropWhile isBlank = l := by
    intro l hl
    rw [List.dropWhile_eq_self_iff]
    intro hlen
    simp [hl _ (List.getElem_mem hlen)]
  unfold trimBlank
  rw [hkeep _ h, hkeep _ (fun c hc => h c (List.mem_reverse.1 hc)), List.reverse_reverse,
    String.ofList_toList]

/-- Digits are not blank. -/
theorem isBlank_of_isDigit {c : Char} (h : c.isDigit = true) : isBlank c = false := by
  simp only [Char.isDigit, Bool.and_eq_true, decide_eq_true_eq] at h
  have h48 : 48 ≤ c.toNat := h.1
  have h57 : c.toNat ≤ 57 := h.2
  unfold isBlank
  generalize c.toNat = n at h48 h57 ⊢
  interval_cases n <;> rfl

end Text

namespace BridgeConfig

/-- The decimal text of a number, most significant digit first. -/
def decimal (n : Nat) : String := String.ofList ((Nat.digits 10 n).reverse.map Nat.digitChar)

/-- The decimal text of a positive number is a numeral for it. -/
theorem numeral_decimal {n : Nat} (hn : 0 < n) : Numeral (decimal n) n := by
  have hdigit : ∀ d ∈ Nat.digits 10 n, d < 10 := fun d hd => Nat.digits_lt_base (by decide) hd
  refine ⟨(Nat.digits 10 n).reverse.map Nat.digitChar, .inl String.toList_ofList, ?_, ?_, ?_⟩
  · simpa using Nat.digits_ne_nil_iff_ne_zero.2 (Nat.pos_iff_ne_zero.1 hn)
  · simp only [List.mem_map, List.mem_reverse]
    rintro c ⟨d, hd, rfl⟩
    simpa [Nat.isDigit_digitChar] using hdigit d hd
  · -- each digit's character reads back as the digit
    have hback : ∀ d ∈ Nat.digits 10 n, d.digitChar.toNat - '0'.toNat = d := by
      intro d hd
      rw [Nat.toNat_digitChar_of_lt_ten (hdigit d hd)]
      simp
    simp only [List.map_reverse, List.reverse_reverse, List.map_map]
    rw [List.map_congr_left (fun d hd => by simpa using hback d hd), List.map_id',
      Nat.ofDigits_digits]

/-- The lookup that sets the capacity to a text and nothing else. -/
def capacityOnly (t : String) (name : String) : Option String :=
  if name = ConfigVar.dispatcherCapacity.name then some t else none

/-- A lookup that sets only the capacity is read with the defaults for the rest. -/
theorem ofLookup_capacityOnly {t : String} {n : Nat} (ht : Text.trimBlank t = t) (hne : t ≠ "")
    (hacc : CapacityAccepts (some t) n) :
    ofLookup (capacityOnly t) = .ok ⟨n, defaultLogLevel, LogFormat.default⟩ := by
  have hcap : read (capacityOnly t) .dispatcherCapacity = some t :=
    (read_eq_some_iff _ _ _).2 ⟨t, by simp [capacityOnly], ht, hne⟩
  have hunset : ∀ v, v ≠ .dispatcherCapacity → read (capacityOnly t) v = none := by
    intro v hv
    have hname : v.name ≠ ConfigVar.dispatcherCapacity.name := by
      cases v with
      | dispatcherCapacity => exact absurd rfl hv
      | logLevel => decide
      | logFormat => decide
    simp [read, capacityOnly, hname]
  rw [ofLookup_eq_ok_iff, hcap, hunset .logLevel (by decide), hunset .logFormat (by decide)]
  exact ⟨hacc, rfl, rfl⟩

/-- The reader accepts exactly the capacities from `1` to `2^64 - 1`. -/
theorem capacity_accepted_iff (n : Nat) :
    (∃ lookup cfg, ofLookup lookup = .ok cfg ∧ cfg.dispatcherCapacity = n) ↔ 0 < n ∧ n < 2 ^ 64 := by
  constructor
  · rintro ⟨lookup, cfg, h, rfl⟩
    obtain ⟨hcap, -, -⟩ := (ofLookup_eq_ok_iff lookup cfg).1 h
    cases hr : read lookup .dispatcherCapacity with
    | none =>
      rw [hr] at hcap
      simp only [CapacityAccepts] at hcap
      omega
    | some t =>
      rw [hr] at hcap
      exact ⟨hcap.2.1, hcap.2.2⟩
  · rintro ⟨hpos, hlt⟩
    -- the decimal text of `n`, set as the capacity
    have hnum := numeral_decimal hpos
    obtain ⟨ds, hds, hne, hdig, -⟩ := hnum
    have hshape : (decimal n).toList = ds := by
      rcases hds with h | h
      · exact h
      · have : (decimal n).toList.head? = some '+' := by rw [h]; rfl
        simp [decimal, List.head?_reverse] at this
    have htrim : Text.trimBlank (decimal n) = decimal n :=
      Text.trimBlank_of_not_blank fun c hc => Text.isBlank_of_isDigit (hdig c (hshape ▸ hc))
    have hnonempty : decimal n ≠ "" := by
      intro h
      rw [h] at hshape
      exact hne (by simpa using hshape.symm)
    exact ⟨capacityOnly (decimal n), _,
      ofLookup_capacityOnly htrim hnonempty ⟨numeral_decimal hpos, hpos, hlt⟩, rfl⟩

/-- Every accepted configuration starts the dispatcher exactly when its capacity is below `2^61`,
and the accepted capacities that make the start panic are exactly those from `2^61` to
`2^64 - 1`. -/
theorem spawnOn_accepted_iff {makeQueue : Nat → Bool} (hq : QueueBounds makeQueue) :
    (∀ lookup cfg, ofLookup lookup = .ok cfg →
      ((Dispatcher.spawnOn makeQueue cfg.dispatcherCapacity).isSome ↔
        cfg.dispatcherCapacity < 2 ^ 61)) ∧
    (∀ n, (∃ lookup cfg, ofLookup lookup = .ok cfg ∧ cfg.dispatcherCapacity = n ∧
        Dispatcher.spawnOn makeQueue n = none) ↔ 2 ^ 61 ≤ n ∧ n < 2 ^ 64) := by
  refine ⟨fun _ cfg _ => Dispatcher.spawnOn_isSome_iff hq cfg.dispatcherCapacity, fun n => ?_⟩
  have hspawn : Dispatcher.spawnOn makeQueue n = none ↔ 2 ^ 61 ≤ n := by
    rw [← Option.not_isSome_iff_eq_none, Dispatcher.spawnOn_isSome_iff hq, not_lt]
  constructor
  · rintro ⟨lookup, cfg, h, hn, hnone⟩
    exact ⟨hspawn.1 hnone, ((capacity_accepted_iff n).1 ⟨lookup, cfg, h, hn⟩).2⟩
  · rintro ⟨hle, hlt⟩
    obtain ⟨lookup, cfg, h, hn⟩ := (capacity_accepted_iff n).2 ⟨by omega, hlt⟩
    exact ⟨lookup, cfg, h, hn, hspawn.2 hle⟩

/-- The runtime's queues as documented: a queue of `b` slots is made when `0 < b ≤ 2^61 - 1`. -/
def runtimeQueue (b : Nat) : Bool := decide (0 < b ∧ b ≤ (2 ^ 64 - 1) >>> 3)

theorem queueBounds_runtimeQueue : QueueBounds runtimeQueue := fun b => by
  simp [runtimeQueue]

theorem spawnOn_accepted_iff_runtimeQueue :
    QueueBounds runtimeQueue ∧
    (∀ lookup cfg, ofLookup lookup = .ok cfg →
      ((Dispatcher.spawnOn runtimeQueue cfg.dispatcherCapacity).isSome ↔
        cfg.dispatcherCapacity < 2 ^ 61)) ∧
    (∀ n, (∃ lookup cfg, ofLookup lookup = .ok cfg ∧ cfg.dispatcherCapacity = n ∧
        Dispatcher.spawnOn runtimeQueue n = none) ↔ 2 ^ 61 ≤ n ∧ n < 2 ^ 64) :=
  ⟨queueBounds_runtimeQueue, spawnOn_accepted_iff queueBounds_runtimeQueue⟩

/-- The capacity `2305843009213693952`, set on its own, is read, and the dispatcher it is handed
to cannot start on any runtime with the documented bound. -/
theorem spawnOn_refuses_accepted_capacity :
    ofLookup (capacityOnly "2305843009213693952") =
      .ok ⟨2305843009213693952, "info", .json⟩ ∧
    ∀ makeQueue, QueueBounds makeQueue → Dispatcher.spawnOn makeQueue 2305843009213693952 = none := by
  refine ⟨ofLookup_capacityOnly (by decide) (by decide) ⟨?_, by decide, by decide⟩, fun q hq => ?_⟩
  · exact ⟨"2305843009213693952".toList, .inl rfl, by simp, List.all_eq_true.1 (by decide), by decide⟩
  · rw [← Option.not_isSome_iff_eq_none, Dispatcher.spawnOn_isSome_iff hq]
    decide

end BridgeConfig

end ChannelBridge
