import ChannelBridge.Proofs.Session.Grounded

/-! # Worlds that differ by one retired listener

A subscribe that the host refuses, or that is given up before a delayed host acknowledges it,
still makes a listener, retired at once, and a recording or a queue for it; a delayed host also
keeps the registration it stored, with the id it issued. Nothing reaches these afterwards. The
world with the call goes on as the world without it would, with every number from the listener,
the recording, the queue or the id on moved up by one to leave room for them.

* `skip`: a number moved past a gap; `Gap`: where the gaps are.
* `Gapped`: an array with one more element at a gap.
* `Registry.Shadow`, `Host.Shadow`, `World.Shadow`: the world with the call against the world
  without it, part by part: the listeners, the host's table, the handles and raw handles, the
  recordings, the queues, the counters and the deliveries.
* One lemma per operation of the world: related worlds give equal answers and related worlds, down
  to the listener calls of a delivery.
-/

namespace ChannelBridge

/-- A number moved past a gap at `p`: from `p` on, numbers go up by one, so that `p` itself is
free. With no gap, numbers stay. -/
def skip (p : Option Nat) (i : Nat) : Nat :=
  match p with
  | some p => if i < p then i else i + 1
  | none => i

@[simp] theorem skip_none (i : Nat) : skip none i = i := rfl

theorem skip_inj (p : Option Nat) {i j : Nat} (h : skip p i = skip p j) : i = j := by
  cases p with
  | none => exact h
  | some p => simp only [skip] at h; split_ifs at h <;> omega

theorem skip_ne (p i : Nat) : skip (some p) i ≠ p := by
  simp only [skip]
  split_ifs <;> omega

/-- Numbers below the gap stay. -/
theorem skip_of_lt {p : Option Nat} {i : Nat} (h : ∀ q, p = some q → i < q) : skip p i = i := by
  cases p with
  | none => rfl
  | some q => exact if_pos (h q rfl)

/-- Past the gap, numbers go up together. -/
theorem skip_succ {p : Option Nat} {i : Nat} (h : ∀ q, p = some q → q ≤ i) :
    skip p (i + 1) = skip p i + 1 := by
  cases p with
  | none => rfl
  | some q =>
    have := h q rfl
    simp only [skip]
    split_ifs <;> omega

/-- Where the world with the call has what the world without it lacks: the retired listener, and
the recording, the queue and the registration id when the call made one. -/
structure Gap where
  listener : Nat
  record : Option Nat
  queue : Option Nat
  id : Option Nat

namespace Gap

variable (g : Gap)

/-- The number listener `l` has in the world with the call. -/
def atListener (l : Nat) : Nat := skip (some g.listener) l

/-- The number recording `r` has in the world with the call. -/
def atRecord (r : Nat) : Nat := skip g.record r

/-- The number queue `q` has in the world with the call. -/
def atQueue (q : Nat) : Nat := skip g.queue q

/-- The id registration id `i` has in the world with the call. -/
def atId (i : Nat) : Nat := skip g.id i

theorem atListener_ne (l : Nat) : g.atListener l ≠ g.listener := skip_ne _ _

theorem atListener_inj {l m : Nat} (h : g.atListener l = g.atListener m) : l = m := skip_inj _ h

theorem atId_inj {i j : Nat} (h : g.atId i = g.atId j) : i = j := skip_inj _ h

@[simp] theorem atListener_beq (l m : Nat) : (g.atListener l == g.atListener m) = (l == m) := by
  by_cases h : l = m
  · simp [h]
  · have hne : g.atListener l ≠ g.atListener m := fun e => h (g.atListener_inj e)
    simp [h, hne]

@[simp] theorem atId_beq (i j : Nat) : (g.atId i == g.atId j) = (i == j) := by
  by_cases h : i = j
  · simp [h]
  · have hne : g.atId i ≠ g.atId j := fun e => h (g.atId_inj e)
    simp [h, hne]

/-- Without a gap in the ids, ids stay. -/
theorem atId_of_none (h : g.id = none) (i : Nat) : g.atId i = i := by
  simp [atId, h]

end Gap

/-- A sink in the world with the call. -/
def Sink.shift (g : Gap) : Sink → Sink
  | .record handle r reactions => .record handle (g.atRecord r) reactions
  | .queue q => .queue (g.atQueue q)

/-- A handler in the world with the call. -/
def Handler.shift (g : Gap) : Handler → Handler
  | .typed c b sink => .typed c b (sink.shift g)
  | .raw handle => .raw handle

/-- A listener in the world with the call. -/
def Listener.shift (g : Gap) (x : Listener) : Listener := ⟨x.active, x.handler.shift g⟩

/-- A subscription in the world with the call. -/
def Subscription.shift (g : Gap) (s : Subscription) : Subscription :=
  ⟨s.channel, g.atId s.registration, g.atListener s.listener, s.bridge⟩

/-- A handle in the world with the call. -/
def Handle.shift (g : Gap) : Handle → Handle
  | .callback s => .callback (s.shift g)
  | .stream s q => .stream (s.shift g) (g.atQueue q)

/-- A registration in the world with the call. -/
def Registration.shift (g : Gap) (r : Registration) : Registration :=
  ⟨g.atId r.id, g.atListener r.listener⟩

@[simp] theorem Listener.active_shift (g : Gap) (x : Listener) : (x.shift g).active = x.active := rfl

@[simp] theorem Subscription.channel_shift (g : Gap) (s : Subscription) :
    (s.shift g).channel = s.channel := rfl

@[simp] theorem Subscription.listener_shift (g : Gap) (s : Subscription) :
    (s.shift g).listener = g.atListener s.listener := rfl

@[simp] theorem Handle.subscription_shift (g : Gap) (h : Handle) :
    (h.shift g).subscription = h.subscription.shift g := by
  cases h <;> rfl

@[simp] theorem Registration.listener_shift (g : Gap) (r : Registration) :
    (r.shift g).listener = g.atListener r.listener := rfl

/-! ## Arrays with a gap -/

/-- `ys` is `xs` changed by `f`, with one more element at the gap `p`. -/
structure Gapped {α β : Type} (p : Option Nat) (f : α → β) (xs : Array α) (ys : Array β) : Prop where
  gap_le : ∀ q, p = some q → q ≤ xs.size
  size_eq : ys.size = skip p xs.size
  get : ∀ i, ys[skip p i]? = xs[i]?.map f

namespace Gapped

variable {α β : Type} {p : Option Nat} {f : α → β} {xs : Array α} {ys : Array β}

theorem push (h : Gapped p f xs ys) (x : α) : Gapped p f (xs.push x) (ys.push (f x)) where
  gap_le q hq := by rw [Array.size_push]; exact Nat.le_succ_of_le (h.gap_le q hq)
  size_eq := by rw [Array.size_push, Array.size_push, h.size_eq, skip_succ h.gap_le]
  get i := by
    rw [Array.getElem?_push, Array.getElem?_push, h.size_eq]
    by_cases hi : i = xs.size
    · subst hi
      simp
    · rw [if_neg hi, if_neg fun e => hi (skip_inj p e), h.get i]

/-- Changing every element in place, each by its own function, keeps the gap when the changes
agree on each element and its moved copy. -/
theorem update (h : Gapped p f xs ys) {xs' : Array α} {ys' : Array β} (F : Nat → α → α)
    (G : Nat → β → β) (hxs : xs'.size = xs.size) (hys : ys'.size = ys.size)
    (hx : ∀ i, xs'[i]? = xs[i]?.map (F i)) (hy : ∀ j, ys'[j]? = ys[j]?.map (G j))
    (hfg : ∀ i a, f (F i a) = G (skip p i) (f a)) : Gapped p f xs' ys' where
  gap_le q hq := hxs ▸ h.gap_le q hq
  size_eq := by rw [hys, hxs, h.size_eq]
  get i := by
    rw [hy, hx, h.get i]
    cases xs[i]? <;> simp [hfg]

theorem modify (h : Gapped p f xs ys) (i : Nat) (u : α → α) (v : β → β)
    (huv : ∀ a, f (u a) = v (f a)) : Gapped p f (xs.modify i u) (ys.modify (skip p i) v) := by
  refine h.update (fun j => if i = j then u else id) (fun j => if skip p i = j then v else id)
    (Array.size_modify) (Array.size_modify) (fun j => ?_) (fun j => ?_) (fun j a => ?_)
  · rw [Array.getElem?_modify]
    split <;> simp
  · rw [Array.getElem?_modify]
    split <;> simp
  · by_cases hj : i = j
    · simp [hj, huv]
    · have hne : skip p i ≠ skip p j := fun e => hj (skip_inj p e)
      simp [hj, hne]

end Gapped

/-! ## List facts the tables need -/

/-- Erasing and filtering commute when what is erased passes the filter. -/
theorem List.filter_eraseP_of_imp {α : Type} {p q : α → Bool} {l : List α}
    (h : ∀ x ∈ l, p x = true → q x = true) : (l.eraseP p).filter q = (l.filter q).eraseP p := by
  induction l with
  | nil => rfl
  | cons x rest ih =>
    have ih := ih fun y hy => h y (List.mem_cons_of_mem _ hy)
    by_cases hp : p x = true
    · have hq := h x List.mem_cons_self hp
      simp [List.eraseP_cons_of_pos hp, hq]
    · rw [List.eraseP_cons_of_neg hp]
      by_cases hq : q x = true
      · simp [hq, ih, List.eraseP_cons_of_neg hp]
      · simp [hq, ih]

/-- A filter implied by a later one adds nothing. -/
theorem List.filter_filter_of_imp {α : Type} {p q : α → Bool} {l : List α}
    (h : ∀ x ∈ l, p x = true → q x = true) : (l.filter q).filter p = l.filter p := by
  rw [List.filter_filter]
  refine List.filter_congr fun x hx => ?_
  by_cases hp : p x = true
  · simp [hp, h x hx hp]
  · simp [hp]

/-- A filter implied by an earlier one adds nothing. -/
theorem List.filter_self_of_imp {α : Type} {p q : α → Bool} {l : List α}
    (h : ∀ x ∈ l, p x = true → q x = true) : (l.filter p).filter q = l.filter p := by
  rw [List.filter_filter]
  refine List.filter_congr fun x hx => ?_
  by_cases hp : p x = true
  · simp [hp, h x hx hp]
  · simp [hp]

/-- A list of named values with every value changed is looked up through the change. -/
theorem List.lookup_map_snd {α β : Type} (xs : List (String × α)) (f : α → β) (k : String) :
    (xs.map fun p => (p.1, f p.2)).lookup k = (xs.lookup k).map f := by
  induction xs with
  | nil => rfl
  | cons p rest ih =>
    obtain ⟨k', v⟩ := p
    by_cases hk : k = k'
    · subst hk
      simp
    · have hne : (k == k') = false := beq_eq_false_iff_ne.2 hk
      simp [List.lookup_cons, hne, ih]

theorem rebind_map_snd {α β : Type} (xs : List (String × α)) (f : α → β) (k : String) (v : α) :
    rebind (xs.map fun p => (p.1, f p.2)) k (f v) = (rebind xs k v).map fun p => (p.1, f p.2) := by
  simp [rebind, List.filter_map, Function.comp_def]

theorem unbind_map_snd {α β : Type} (xs : List (String × α)) (f : α → β) (k : String) :
    unbind (xs.map fun p => (p.1, f p.2)) k = (unbind xs k).map fun p => (p.1, f p.2) := by
  simp [unbind, List.filter_map, Function.comp_def]

/-! ## Tables -/

namespace Registry

/-- Whether a removal found the registration is read off the channel's list. -/
theorem unlisten_fst (r : Registry) (c : Channel) (id : Nat) :
    (r.unlisten c id).1 = (r.entries c).any fun reg => reg.id == id := by
  unfold unlisten
  cases hc : r.table.get c <;> simp [entries, hc]

/-- The table of the world with the call against the table of the world without it: the same
state, the same registrations moved past the gaps, and perhaps the retired listener's own
registration, with an id that no registration of the other world moves to. -/
structure Shadow (g : Gap) (t t' : Registry) : Prop where
  closed : t'.closed = t.closed
  events : t'.events = t.events
  entries : ∀ c, (t'.entries c).filter (fun r => r.listener != g.listener) =
    (t.entries c).map (Registration.shift g)
  gap_only : ∀ {c r}, r ∈ t'.entries c → r.listener = g.listener → ∀ i, g.atId i ≠ r.id
  counter : g.id = none → t'.registrations = t.registrations
  counter_gap : ∀ k, g.id = some k →
    k ≤ t.registrations.count.toNat + 1 ∧
    t'.registrations.count.toNat = t.registrations.count.toNat + 1

namespace Shadow

variable {g : Gap} {t t' : Registry}

/-- A registration of the world with the call on a moved listener is a moved registration. -/
theorem mem_entries (h : Shadow g t t') {c : Channel} {r : Registration} (hr : r ∈ t'.entries c)
    (hl : r.listener ≠ g.listener) : ∃ r₀ ∈ t.entries c, r = r₀.shift g := by
  have hf : r ∈ (t'.entries c).filter (fun r => r.listener != g.listener) :=
    List.mem_filter.2 ⟨hr, bne_iff_ne.2 hl⟩
  rw [h.entries c] at hf
  obtain ⟨r₀, hr₀, rfl⟩ := List.mem_map.1 hf
  exact ⟨r₀, hr₀, rfl⟩

theorem shift_mem_entries (h : Shadow g t t') {c : Channel} {r : Registration} (hr : r ∈ t.entries c) :
    r.shift g ∈ t'.entries c := by
  have hf : r.shift g ∈ (t.entries c).map (Registration.shift g) := List.mem_map_of_mem hr
  rw [← h.entries c] at hf
  exact (List.mem_filter.1 hf).1

/-- A listener is held by one table exactly when its moved number is held by the other. -/
theorem mem_listeners (h : Shadow g t t') (l : Nat) :
    g.atListener l ∈ t'.listeners ↔ l ∈ t.listeners := by
  rw [Registry.mem_listeners, Registry.mem_listeners]
  constructor
  · rintro ⟨c, r, hr, hl⟩
    obtain ⟨r₀, hr₀, rfl⟩ := h.mem_entries hr (hl ▸ g.atListener_ne l)
    exact ⟨c, r₀, hr₀, g.atListener_inj hl⟩
  · rintro ⟨c, r, hr, rfl⟩
    exact ⟨c, r.shift g, h.shift_mem_entries hr, rfl⟩

theorem listen_none (h : Shadow g t t') (c : Channel) (l l' : Nat) :
    t'.listen c l' = none ↔ t.listen c l = none := by
  rw [listen_eq_none_iff, listen_eq_none_iff, h.closed]

/-- Registering a moved listener: the id is the moved id, and the tables stay related. -/
theorem listen (h : Shadow g t t') {c : Channel} {l id : Nat} {t₁ : Registry}
    (hl : t.listen c l = some (id, t₁))
    (hlt : g.id ≠ none → t'.registrations.count.toNat < 2 ^ 64 - 1) :
    ∃ t₁', t'.listen c (g.atListener l) = some (g.atId id, t₁') ∧ Shadow g t₁ t₁' := by
  obtain ⟨-, hid, hcount⟩ := listen_eq_some hl
  cases hl' : t'.listen c (g.atListener l) with
  | none =>
    rw [h.listen_none c l, hl] at hl'
    cases hl'
  | some p =>
    obtain ⟨id', t₁'⟩ := p
    obtain ⟨-, hid', hcount'⟩ := listen_eq_some hl'
    -- the ids and the counters: the same without a gap in the ids, one apart with one
    have hissue : id' = g.atId id ∧ (g.id = none → t₁'.registrations = t₁.registrations) ∧
        ∀ k, g.id = some k → k ≤ t₁.registrations.count.toNat + 1 ∧
          t₁'.registrations.count.toNat = t₁.registrations.count.toNat + 1 := by
      cases hg : g.id with
      | none =>
        rw [hid', hcount', h.counter hg, g.atId_of_none hg, hid, hcount]
        exact ⟨rfl, fun _ => rfl, fun _ e => by cases e⟩
      | some k =>
        obtain ⟨hk, hc⟩ := h.counter_gap k hg
        have hlt' := hlt (by simp [hg])
        obtain ⟨hissue', hnext'⟩ := IdCounter.issue_of_lt hlt'
        obtain ⟨hissue, hnext⟩ :=
          IdCounter.issue_of_lt (show t.registrations.count.toNat < 2 ^ 64 - 1 by omega)
        refine ⟨?_, fun e => (by cases e), fun k' e => ?_⟩
        · rw [hid', hissue', hid, hissue, Gap.atId, hg]
          simp only [skip]
          rw [if_neg (by omega)]
          omega
        · cases e
          rw [hcount, hcount', hnext, hnext']
          omega
    obtain ⟨hclosed, hevents⟩ := listen_frame hl
    obtain ⟨hclosed', hevents'⟩ := listen_frame hl'
    refine ⟨t₁', by rw [hissue.1], ⟨?_, ?_, fun d => ?_, fun hr hl'' i => ?_, hissue.2.1, hissue.2.2⟩⟩
    · rw [hclosed', hclosed, h.closed]
    · rw [hevents', hevents, h.events]
    · rw [entries_listen hl', entries_listen hl]
      split
      · rw [List.filter_append, List.map_append, h.entries c, hissue.1]
        simp [Registration.shift, g.atListener_ne l]
      · exact h.entries d
    · rw [entries_listen hl'] at hr
      split at hr
      · rcases List.mem_append.1 hr with hr | hr
        · exact h.gap_only hr hl'' i
        · rw [List.mem_singleton.1 hr] at hl''
          exact absurd hl'' (g.atListener_ne l)
      · exact h.gap_only hr hl'' i

/-- Removing a moved id: the same answer, and the tables stay related. -/
theorem unlisten (h : Shadow g t t') (c : Channel) (i : Nat) :
    (t'.unlisten c (g.atId i)).1 = (t.unlisten c i).1 ∧
    Shadow g (t.unlisten c i).2 (t'.unlisten c (g.atId i)).2 := by
  -- the retired listener's registration never matches a moved id
  have hskip : ∀ d, ∀ x ∈ t'.entries d, (x.id == g.atId i) = true →
      (x.listener != g.listener) = true := by
    intro d x hx hid
    rw [bne_iff_ne]
    intro hl
    exact h.gap_only hx hl i (beq_iff_eq.1 hid).symm
  have hmap : ((t.entries c).map (Registration.shift g)).eraseP (fun x => x.id == g.atId i) =
      ((t.entries c).eraseP fun x => x.id == i).map (Registration.shift g) := by
    rw [List.eraseP_map]
    congr 2
    funext x
    simp [Registration.shift]
  obtain ⟨hclosed, hevents, hcount⟩ := unlisten_frame t c i
  obtain ⟨hclosed', hevents', hcount'⟩ := unlisten_frame t' c (g.atId i)
  refine ⟨?_, ⟨?_, ?_, fun d => ?_, fun hr hl j => ?_, fun hg => ?_, fun k hk => ?_⟩⟩
  · rw [unlisten_fst, unlisten_fst]
    -- only moved registrations can match a moved id
    have hany : (t'.entries c).any (fun x => x.id == g.atId i) =
        ((t'.entries c).filter (fun r => r.listener != g.listener)).any (fun x => x.id == g.atId i) := by
      rw [List.any_filter]
      apply Bool.eq_iff_iff.2
      simp only [List.any_eq_true, Bool.and_eq_true]
      constructor
      · rintro ⟨x, hx, hid⟩
        exact ⟨x, hx, hskip c x hx hid, hid⟩
      · rintro ⟨x, hx, -, hid⟩
        exact ⟨x, hx, hid⟩
    rw [hany, h.entries c, List.any_map]
    congr 1
    funext x
    simp [Registration.shift]
  · rw [hclosed', hclosed, h.closed]
  · rw [hevents', hevents, h.events]
  · rw [entries_unlisten, entries_unlisten]
    split
    · next hd =>
      subst hd
      rw [List.filter_eraseP_of_imp (hskip d), h.entries d, hmap]
    · exact h.entries d
  · rw [entries_unlisten] at hr
    split at hr
    · next hd => subst hd; exact h.gap_only (List.mem_of_mem_eraseP hr) hl j
    · exact h.gap_only hr hl j
  · rw [hcount, hcount', h.counter hg]
  · rw [hcount, hcount']
    exact h.counter_gap k hk

/-- Pruning with flags that agree on moved listeners and retire the gap's listener: the live
listeners are the moved ones, and the tables stay related. -/
theorem prune (h : Shadow g t t') (c : Channel) {act act' : Nat → Bool}
    (hact : ∀ l, act' (g.atListener l) = act l) (hgap : act' g.listener = false) :
    (t'.prune c act').1 = (t.prune c act).1.map g.atListener ∧
    Shadow g (t.prune c act).2 (t'.prune c act').2 := by
  -- a live registration of the world with the call is a moved one
  have himp : ∀ d, ∀ x ∈ t'.entries d, act' x.listener = true →
      (x.listener != g.listener) = true := by
    intro d x _ hx
    rw [bne_iff_ne]
    intro hl
    rw [hl, hgap] at hx
    cases hx
  have hlive : ∀ d, (t'.entries d).filter (fun r => act' r.listener) =
      ((t.entries d).filter fun r => act r.listener).map (Registration.shift g) := by
    intro d
    rw [← List.filter_filter_of_imp (himp d), h.entries d, List.filter_map]
    congr 2
    funext r
    simp [Registration.shift, hact]
  obtain ⟨hclosed, hevents, hcount⟩ := prune_frame t c act
  obtain ⟨hclosed', hevents', hcount'⟩ := prune_frame t' c act'
  refine ⟨?_, ⟨?_, ?_, fun d => ?_, fun hr hl j => ?_, fun hg => ?_, fun k hk => ?_⟩⟩
  · rw [prune_fst, prune_fst, hlive c]
    simp [Function.comp_def, Registration.shift]
  · rw [hclosed', hclosed, h.closed]
  · rw [hevents', hevents, h.events]
  · rw [entries_prune, entries_prune]
    split
    · next hd =>
      subst hd
      rw [List.filter_self_of_imp (himp d), hlive d]
    · exact h.entries d
  · rw [entries_prune] at hr
    split at hr
    · exact h.gap_only (List.mem_filter.1 hr).1 hl j
    · exact h.gap_only hr hl j
  · rw [hcount, hcount', h.counter hg]
  · rw [hcount, hcount']
    exact h.counter_gap k hk

/-- Taking an event id: the same id, and the tables stay related. -/
theorem nextEvent (h : Shadow g t t') :
    t'.nextEvent.1 = t.nextEvent.1 ∧ Shadow g t.nextEvent.2 t'.nextEvent.2 := by
  refine ⟨by simp [Registry.nextEvent, h.events], ⟨h.closed, by simp [Registry.nextEvent, h.events],
    h.entries, h.gap_only, h.counter, h.counter_gap⟩⟩

/-- Closing both tables leaves them related. -/
theorem close (h : Shadow g t t') : Shadow g t.close.2 t'.close.2 where
  closed := rfl
  events := h.events
  entries c := by simp [entries_close]
  gap_only hr := by simp [entries_close] at hr
  counter := h.counter
  counter_gap := h.counter_gap

end Shadow

end Registry

/-! ## Hosts -/

/-- The host of the world with the call against the host without it: the same kind of host over
related tables, with the same refusal and the same acknowledgements; the counters of attempts and
removals may differ. A broadcasting host never refuses and never waits, so it has no part here. -/
inductive Host.Shadow (g : Gap) : Host → Host → Prop
  | «local» {t t' : Registry} : Registry.Shadow g t t' → Host.Shadow g (.local t) (.local t')
  | counting {t t' : Registry} {listens listens' unlistens removed : Nat} : Registry.Shadow g t t' →
      Host.Shadow g (.counting t listens unlistens removed) (.counting t' listens' unlistens removed)
  | delayed {t t' : Registry} {a : Nat} : Registry.Shadow g t t' →
      Host.Shadow g (.delayed t a) (.delayed t' a)
  | failing {t t' : Registry} {r : Refusal} {attempts attempts' removals : Nat} :
      Registry.Shadow g t t' →
      Host.Shadow g (.failing r attempts removals t) (.failing r attempts' removals t')

namespace Host.Shadow

variable {g : Gap} {h h' : Host}

theorem table (hs : Host.Shadow g h h') : Registry.Shadow g h.table h'.table := by
  cases hs <;> assumption

theorem setTable (hs : Host.Shadow g h h') {t t' : Registry} (ht : Registry.Shadow g t t') :
    Host.Shadow g (h.setTable t) (h'.setTable t') := by
  cases hs with
  | «local» => exact .local ht
  | counting => exact .counting ht
  | delayed => exact .delayed ht
  | failing => exact .failing ht

theorem acknowledge (hs : Host.Shadow g h h') : Host.Shadow g h.acknowledge h'.acknowledge := by
  cases hs with
  | «local» ht => exact .local ht
  | counting ht => exact .counting ht
  | delayed ht => exact .delayed ht
  | failing ht => exact .failing ht

theorem acknowledgesLater_eq (hs : Host.Shadow g h h') :
    h'.acknowledgesLater = h.acknowledgesLater := by
  cases hs <;> rfl

theorem ne_broadcast (hs : Host.Shadow g h h') (fan : Broadcast) (t : Registry) :
    h ≠ .broadcast fan t ∧ h' ≠ .broadcast fan t := by
  cases hs <;> exact ⟨nofun, nofun⟩

/-- A listener is held by one host exactly when its moved number is held by the other. -/
theorem mem_held (hs : Host.Shadow g h h') (l : Nat) : g.atListener l ∈ h'.held ↔ l ∈ h.held := by
  cases hs with
  | «local» ht => exact ht.mem_listeners l
  | counting ht => exact ht.mem_listeners l
  | delayed ht => exact ht.mem_listeners l
  | failing ht => exact ht.mem_listeners l

/-- Storing a registration of a moved listener: the moved id, or the same refusal. -/
theorem register (hs : Host.Shadow g h h')
    (hlt : g.id ≠ none → h'.table.registrations.count.toNat < 2 ^ 64 - 1) (c : Channel) (l : Nat) :
    (h'.register c (g.atListener l)).1 = (h.register c l).1.map g.atId ∧
    Host.Shadow g (h.register c l).2 (h'.register c (g.atListener l)).2 := by
  cases hs with
  | failing ht => exact ⟨rfl, .failing ht⟩
  | @«local» t t' ht | @counting t t' _ _ _ _ ht | @delayed t t' _ ht =>
    -- the three hosts over a table answer as their tables do
    simp only [Host.register]
    cases hl : t.listen c l with
    | none =>
      rw [(ht.listen_none c l (g.atListener l)).2 hl]
      exact ⟨rfl, by constructor; exact ht⟩
    | some p =>
      obtain ⟨id, t₁⟩ := p
      obtain ⟨t₁', hl', ht₁⟩ := ht.listen hl hlt
      rw [hl']
      exact ⟨rfl, by constructor; exact ht₁⟩

/-- Removing a moved id: the same answer, and the hosts stay related. -/
theorem unlisten (hs : Host.Shadow g h h') (c : Channel) (i : Nat) :
    (h'.unlisten c (g.atId i)).1 = (h.unlisten c i).1 ∧
    Host.Shadow g (h.unlisten c i).2 (h'.unlisten c (g.atId i)).2 := by
  cases hs with
  | failing ht => exact ⟨rfl, .failing ht⟩
  | @«local» t t' ht | @counting t t' _ _ _ _ ht | @delayed t t' _ ht =>
    -- the same answer of the tables, which a counting host also counts
    obtain ⟨hfound, ht₁⟩ := ht.unlisten c i
    simp only [Host.unlisten]
    rcases h₀ : t.unlisten c i with ⟨found, t₁⟩
    rcases h₁ : t'.unlisten c (g.atId i) with ⟨found', t₁'⟩
    rw [h₀, h₁] at hfound ht₁
    dsimp only at hfound ht₁ ⊢
    subst hfound
    exact ⟨rfl, by constructor; exact ht₁⟩

end Host.Shadow

end ChannelBridge
