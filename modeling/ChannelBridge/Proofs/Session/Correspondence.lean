import ChannelBridge.Proofs.Session.Moves
import Mathlib.Data.List.Nodup

/-! # Registrations correspond to subscriptions

On a host that registers into its local table, every active subscription of a session stands for
exactly one registration of the table: under its channel, with its id and its listener. Every other
registration is retired, waiting to be pruned. Ids are issued in increasing order, so each channel
lists its registrations by increasing id and no id is found twice; and a channel whose list empties
loses its entry.

* `Consistent`: the invariant, one field per fact.
* `Consistent.move`: every move keeps it; `Consistent.subscribeStep` and
  `Consistent.streamStep`: so does registering, while the id counter is below its last value.
* `Reachable`: the worlds a session reaches through its bridges; `Reachable.consistent`.
* `registrations_correspond`: the four laws read off the invariant: the live count of a channel is
  its number of active subscriptions, each active subscription has exactly its own registration,
  every other registration is retired, and ids are unique and increasing with no empty entry.
-/

namespace ChannelBridge

/-- The registration a subscription stands for. -/
def Subscription.entry (s : Subscription) : Registration := ⟨s.registration, s.listener⟩

/-- In a list ordered by increasing id, an id names one registration. -/
theorem Registration.eq_of_id_eq {l : List Registration} (hl : l.Pairwise fun r s => r.id < s.id)
    {r s : Registration} (hr : r ∈ l) (hs : s ∈ l) (h : r.id = s.id) : r = s := by
  induction l with
  | nil => simp at hr
  | cons a rest ih =>
    rw [List.pairwise_cons] at hl
    rcases List.mem_cons.1 hr with rfl | hr' <;> rcases List.mem_cons.1 hs with rfl | hs'
    · rfl
    · exact absurd h (Nat.ne_of_lt (hl.1 s hs'))
    · exact absurd h.symm (Nat.ne_of_lt (hl.1 r hr'))
    · exact ih hl.2 hr' hs'

namespace World

/-- The registration correspondence of a session on a local table. -/
structure Consistent (w : World) : Prop where
  registersLocally : w.host.registersLocally = true
  noEmptyEntry : w.host.table.NoEmptyEntry
  ids_increase : ∀ c, (w.host.table.entries c).Pairwise fun r s => r.id < s.id
  ids_apart : ∀ {c d r s}, r ∈ w.host.table.entries c → s ∈ w.host.table.entries d →
    r.id = s.id → c = d
  ids_issued : ∀ {c r}, r ∈ w.host.table.entries c → r.id ≤ w.host.table.registrations.count.toNat
  listeners_made : ∀ {c r}, r ∈ w.host.table.entries c → r.listener < w.listeners.size
  listeners_apart : ∀ {c d r s}, r ∈ w.host.table.entries c → s ∈ w.host.table.entries d →
    r.listener = s.listener → c = d ∧ r = s
  names_nodup : (w.handles.map (·.1)).Nodup
  handle_listeners_nodup : (w.handles.map (·.2.subscription.listener)).Nodup
  handle_listeners_made : ∀ {n h}, (n, h) ∈ w.handles → h.subscription.listener < w.listeners.size
  active_registered : ∀ {n h}, (n, h) ∈ w.handles → w.isActive h.subscription.listener = true →
    h.subscription.entry ∈ w.host.table.entries h.subscription.channel
  active_owned : ∀ {c r}, r ∈ w.host.table.entries c → w.isActive r.listener = true →
    ∃ n h, (n, h) ∈ w.handles ∧ h.subscription.channel = c ∧ h.subscription.entry = r

namespace Consistent

variable {w w' : World}

/-- A name is bound once. -/
theorem eq_of_name_eq (hw : w.Consistent) {n : String} {h h' : Handle} (hm : (n, h) ∈ w.handles)
    (hm' : (n, h') ∈ w.handles) : h = h' := by
  have := List.inj_on_of_nodup_map hw.names_nodup hm hm' rfl
  simpa using this

/-- A listener belongs to one handle. -/
theorem eq_of_listener_eq (hw : w.Consistent) {n n' : String} {h h' : Handle}
    (hm : (n, h) ∈ w.handles) (hm' : (n', h') ∈ w.handles)
    (hl : h.subscription.listener = h'.subscription.listener) : n = n' ∧ h = h' := by
  have := List.inj_on_of_nodup_map hw.handle_listeners_nodup hm hm' hl
  simpa using this

/-- A change that keeps the local host, removes registrations, retires listeners and drops only
handles it has retired keeps the correspondence, as long as every handle still active keeps its
registration. -/
theorem shrink (hw : w.Consistent) (hlocal : w'.host.registersLocally = true)
    (hkeys : w'.host.table.NoEmptyEntry)
    (hentries : ∀ c, (w'.host.table.entries c).Sublist (w.host.table.entries c))
    (hcount : w'.host.table.registrations = w.host.table.registrations)
    (hsize : w.listeners.size ≤ w'.listeners.size)
    (hfall : ∀ l, w'.isActive l = true → w.isActive l = true)
    (hhandles : w'.handles.Sublist w.handles)
    (hkept : ∀ {n h}, (n, h) ∈ w.handles → w'.isActive h.subscription.listener = true →
      (n, h) ∈ w'.handles)
    (hreg : ∀ {n h}, (n, h) ∈ w'.handles → w'.isActive h.subscription.listener = true →
      h.subscription.entry ∈ w'.host.table.entries h.subscription.channel) :
    w'.Consistent where
  registersLocally := hlocal
  noEmptyEntry := hkeys
  ids_increase c := (hw.ids_increase c).sublist (hentries c)
  ids_apart hr hs := hw.ids_apart ((hentries _).subset hr) ((hentries _).subset hs)
  ids_issued hr := hcount ▸ hw.ids_issued ((hentries _).subset hr)
  listeners_made hr := Nat.lt_of_lt_of_le (hw.listeners_made ((hentries _).subset hr)) hsize
  listeners_apart hr hs := hw.listeners_apart ((hentries _).subset hr) ((hentries _).subset hs)
  names_nodup := (hhandles.map _).nodup hw.names_nodup
  handle_listeners_nodup := (hhandles.map _).nodup hw.handle_listeners_nodup
  handle_listeners_made hm := Nat.lt_of_lt_of_le (hw.handle_listeners_made (hhandles.subset hm)) hsize
  active_registered := hreg
  active_owned {c r} hr hact := by
    obtain ⟨n, h, hm, hc, he⟩ := hw.active_owned ((hentries c).subset hr) (hfall _ hact)
    -- the owner stays active, so it was not dropped
    have hact' : w'.isActive h.subscription.listener = true := by
      rw [← he] at hact
      exact hact
    exact ⟨n, h, hkept hm hact', hc, he⟩

/-- A change that leaves the table, the flags and the handles as they are keeps the
correspondence. -/
theorem frame (hw : w.Consistent) (hlocal : w'.host.registersLocally = w.host.registersLocally)
    (htable : w'.host.table.table = w.host.table.table)
    (hcount : w'.host.table.registrations = w.host.table.registrations)
    (hlisteners : w'.listeners = w.listeners) (hhandles : w'.handles = w.handles) :
    w'.Consistent := by
  have hentries : w'.host.table.entries = w.host.table.entries := by
    funext c
    simp [Registry.entries, htable]
  have hactive := isActive_congr hlisteners
  refine hw.shrink (hlocal.trans hw.registersLocally) ?_ (fun c => by rw [hentries]) hcount
    (Nat.le_of_eq (by rw [hlisteners])) (fun l h => by rwa [hactive] at h) (by rw [hhandles])
    (fun hm _ => by rwa [hhandles]) ?_
  · intro c
    rw [htable]
    exact hw.noEmptyEntry c
  · intro n h hm hact
    rw [hhandles] at hm
    rw [hactive] at hact
    rw [hentries]
    exact hw.active_registered hm hact

/-! ## Each move keeps the correspondence -/

/-- Pruning a channel drops only retired registrations. -/
theorem prune (hw : w.Consistent) (c : Channel) :
    (w.setTable (w.host.table.prune c w.isActive).2).Consistent := by
  refine hw.shrink ?_ ?_ ?_ ?_ (Nat.le_refl _) (fun _ h => h) (List.Sublist.refl _)
    (fun hm _ => hm) ?_
  · simpa [setTable] using hw.registersLocally
  · simpa [setTable] using hw.noEmptyEntry.prune c w.isActive
  · intro d
    simp only [setTable, Host.table_setTable, Registry.entries_prune]
    split
    · next hd =>
      rw [hd]
      exact List.filter_sublist
    · exact List.Sublist.refl _
  · simp [setTable]
  · intro n h hm hact
    have hreg := hw.active_registered hm hact
    simp only [setTable, Host.table_setTable, Registry.entries_prune]
    split
    · next hc =>
      rw [← hc]
      exact List.mem_filter.2 ⟨hreg, hact⟩
    · exact hreg

/-- Cancelling the subscription of a handle keeps the correspondence, whether the handle stays or
its name is dropped. -/
theorem cancelled (hw : w.Consistent) {n : String} {h : Handle} (hm : (n, h) ∈ w.handles)
    (hhost : w'.host = (w.cancel h.subscription).host)
    (hlisteners : w'.listeners = (w.cancel h.subscription).listeners)
    (hhandles : w'.handles = w.handles ∨ w'.handles = unbind w.handles n) : w'.Consistent := by
  have hsub : w'.handles.Sublist w.handles := by
    rcases hhandles with e | e
    · exact e ▸ List.Sublist.refl _
    · exact e ▸ List.filter_sublist
  -- only the handle being cancelled can lose its name
  have hkeep : ∀ {n' h'}, (n', h') ∈ w.handles →
      h'.subscription.listener ≠ h.subscription.listener → (n', h') ∈ w'.handles := by
    intro n' h' hm' hne
    rcases hhandles with e | e <;> rw [e]
    · exact hm'
    · refine List.mem_filter.2 ⟨hm', ?_⟩
      have hn : n' ≠ n := by
        rintro rfl
        exact hne (by rw [hw.eq_of_name_eq hm' hm])
      simpa using hn
  by_cases hact : w.isActive h.subscription.listener = true
  · -- the listener is retired and the host removes its registration
    have hflags : w'.isActive = (w.retire h.subscription.listener).isActive :=
      isActive_congr (by rw [hlisteners, listeners_cancel, if_pos hact])
    have hhost' : w'.host = (w.host.unlisten h.subscription.channel h.subscription.registration).2 := by
      rw [hhost, host_cancel, if_pos hact]
    obtain ⟨-, htable⟩ :=
      Host.unlisten_of_registersLocally hw.registersLocally h.subscription.channel h.subscription.registration
    have hentries : ∀ d, w'.host.table.entries d = if d = h.subscription.channel then
        (w.host.table.entries h.subscription.channel).eraseP
          (fun reg => reg.id == h.subscription.registration) else w.host.table.entries d := by
      intro d
      rw [hhost', htable, Registry.entries_unlisten]
    have hoff : ∀ l, w'.isActive l = true → l ≠ h.subscription.listener ∧ w.isActive l = true := by
      intro l hl
      rw [hflags, isActive_retire] at hl
      simpa using hl
    refine hw.shrink ?_ ?_ ?_ ?_ ?_ (fun l hl => (hoff l hl).2) hsub
      (fun hm' hl => hkeep hm' (hoff _ hl).1) ?_
    · rw [hhost']
      simpa using hw.registersLocally
    · rw [hhost', htable]
      exact hw.noEmptyEntry.unlisten _ _
    · intro d
      rw [hentries]
      split
      · next hd =>
        rw [hd]
        exact List.eraseP_sublist
      · exact List.Sublist.refl _
    · rw [hhost', htable, Registry.registrations_unlisten]
    · exact Nat.le_of_eq (by rw [hlisteners, listeners_cancel, if_pos hact, size_retire])
    · intro n' h' hm' hl
      obtain ⟨hne, hl'⟩ := hoff _ hl
      have hreg := hw.active_registered (hsub.subset hm') hl'
      rw [hentries]
      split
      · next hd =>
        rw [← hd]
        -- the entry removed is the cancelled one, which has another listener
        refine (List.mem_eraseP_of_neg ?_).2 hreg
        intro hid
        have hsame := Registration.eq_of_id_eq (hw.ids_increase h.subscription.channel)
          (hd ▸ hreg) (hw.active_registered hm hact) (beq_iff_eq.1 hid)
        exact hne (congrArg Registration.listener hsame)
      · exact hreg
  · -- nothing changes but, perhaps, the handle's name
    have hact' : w.isActive h.subscription.listener = false := by simpa using hact
    have hsame := cancel_of_inactive hact'
    rw [hsame] at hhost hlisteners
    have hflags := isActive_congr hlisteners
    refine hw.shrink (hhost ▸ hw.registersLocally) (hhost ▸ hw.noEmptyEntry)
      (fun c => by rw [hhost]) (by rw [hhost]) (Nat.le_of_eq (by rw [hlisteners]))
      (fun l hl => by rwa [hflags] at hl) hsub ?_ ?_
    · intro n' h' hm' hl
      rw [hflags] at hl
      exact hkeep hm' (fun e => by rw [e, hact'] at hl; cases hl)
    · intro n' h' hm' hl
      rw [hflags] at hl
      rw [hhost]
      exact hw.active_registered (hsub.subset hm') hl

/-- Closing the table retires every listener it held, so no subscription stays active. -/
theorem closeTable (hw : w.Consistent) : w.closeTable.Consistent := by
  have hflags : ∀ l, w.closeTable.isActive l =
      (!w.host.table.listeners.contains l && w.isActive l) := by
    intro l
    rw [closeTable_eq]
    exact isActive_retireAll _ _ _
  have hhost : w.closeTable.host = w.host.setTable w.host.table.close.2 := by
    simp [closeTable_eq, logEvent, setTable]
  have hhandles : w.closeTable.handles = w.handles := by
    simp [closeTable_eq, logEvent, setTable]
  refine hw.shrink ?_ ?_ ?_ ?_ ?_ ?_ (hhandles ▸ List.Sublist.refl _) ?_ ?_
  · simpa [hhost] using hw.registersLocally
  · simpa [hhost] using Registry.noEmptyEntry_close w.host.table
  · intro c
    simp [hhost, Registry.entries_close]
  · simp [hhost, Registry.close]
  · simp [closeTable_eq, logEvent, setTable]
  · intro l hl
    rw [hflags] at hl
    simp only [Bool.and_eq_true] at hl
    exact hl.2
  · intro n h hm _
    rwa [hhandles]
  · -- an active handle had its registration in the table, so its listener was retired
    intro n h hm hl
    rw [hflags] at hl
    simp only [Bool.and_eq_true, Bool.not_eq_true', List.contains_eq_mem, decide_eq_false_iff_not] at hl
    rw [hhandles] at hm
    have hreg := hw.active_registered hm hl.2
    exact absurd (Registry.mem_listeners.2 ⟨_, _, hreg, rfl⟩) hl.1

/-- Every move keeps the correspondence. -/
theorem move (hw : w.Consistent) (hmove : Move w w') : w'.Consistent := by
  cases hmove with
  | logEvent e => exact hw.frame rfl rfl rfl rfl rfl
  | deliverCall d => exact hw.frame rfl rfl rfl rfl rfl
  | bump b f => cases b <;> exact hw.frame rfl rfl rfl rfl rfl
  | recordPayload r p => exact hw.frame rfl rfl rfl rfl rfl
  | enqueue q p => exact hw.frame rfl rfl rfl rfl rfl
  | dequeue q =>
    unfold dequeue
    split <;> exact hw.frame rfl rfl rfl rfl rfl
  | clearDeliveries => exact hw.frame rfl rfl rfl rfl rfl
  | nextEvent =>
    exact hw.frame (by simp [setTable]) (by simp [setTable, Registry.nextEvent])
      (by simp [setTable, Registry.nextEvent]) rfl rfl
  | prune c => exact hw.prune c
  | cancelHandle hh =>
    rename_i name h
    have hm := mem_of_lookup_eq_some hh
    cases h with
    | callback s => exact hw.cancelled hm rfl rfl (.inl (handles_cancel _ _))
    | stream s q => exact hw.cancelled hm rfl rfl (.inl (handles_cancel _ _))
  | dropHandle name =>
    unfold dropHandle
    split
    · next h hh =>
      have hm := mem_of_lookup_eq_some hh
      -- the handle is cancelled on the world without its name, whose host and flags are the same
      have hhost : ({ w with handles := unbind w.handles name }.cancel h.subscription).host =
          (w.cancel h.subscription).host := by
        rw [host_cancel, host_cancel]
        rfl
      have hlisteners : ({ w with handles := unbind w.handles name }.cancel h.subscription).listeners =
          (w.cancel h.subscription).listeners := by
        rw [listeners_cancel, listeners_cancel]
        rfl
      cases h with
      | callback s => exact hw.cancelled hm hhost hlisteners (.inr (handles_cancel _ _))
      | stream s q => exact hw.cancelled hm hhost hlisteners (.inr (handles_cancel _ _))
    · exact hw
  | closeTable => exact hw.closeTable

/-- Every run of moves keeps the correspondence. -/
theorem moves (hw : w.Consistent) (hrun : Moves w w') : w'.Consistent :=
  hrun.preserves (fun hmove hw' => hw'.move hmove) hw

/-! ## Registering keeps the correspondence -/

/-- A listener made retired, with the table as it was, keeps the correspondence. -/
theorem pushRetired (hw : w.Consistent) (hlocal : w'.host.registersLocally = true)
    (htable : w'.host.table = w.host.table) {x : Listener} (hx : x.active = false)
    (hlisteners : w'.listeners = w.listeners.push x) (hhandles : w'.handles = w.handles) :
    w'.Consistent := by
  have hfall : ∀ l, w'.isActive l = true → w.isActive l = true := by
    intro l hl
    rw [isActive_of_listeners_push hlisteners, apply_ite (· = true), hx] at hl
    split at hl
    · cases hl
    · exact hl
  refine hw.shrink hlocal (htable ▸ hw.noEmptyEntry) (fun c => by rw [htable]) (by rw [htable])
    (by rw [hlisteners, Array.size_push]; omega) hfall (hhandles ▸ List.Sublist.refl _)
    (fun hm _ => hhandles ▸ hm) ?_
  intro n h hm hact
  rw [htable]
  exact hw.active_registered (hhandles ▸ hm) (hfall _ hact)

/-- A registration the table takes for the listener made just now keeps the correspondence: with
the listener retired and the handles as they were, or with a fresh name bound to a handle that
stands for the new registration. The id counter must be below its last value, so the new id is
one no registration has. -/
theorem listen (hw : w.Consistent) (hlt : w.host.table.registrations.count.toNat < 2 ^ 64 - 1)
    {c : Channel} {id : Nat} {t : Registry}
    (hlisten : w.host.table.listen c w.listeners.size = some (id, t))
    (hlocal : w'.host.registersLocally = true) (htable : w'.host.table = t)
    {x : Listener} (hlisteners : w'.listeners = w.listeners.push x)
    (hhandles : x.active = false ∧ w'.handles = w.handles ∨
      ∃ name h, w.handles.lookup name = none ∧ h.subscription.channel = c ∧
        h.subscription.entry = ⟨id, w.listeners.size⟩ ∧ w'.handles = (name, h) :: w.handles) :
    w'.Consistent := by
  obtain ⟨-, hid, hcount⟩ := Registry.listen_eq_some hlisten
  obtain ⟨hissued, hcount'⟩ := IdCounter.issue_of_lt hlt
  rw [← hid] at hissued
  rw [← hcount] at hcount'
  -- the table gains one registration, at the end of its channel's list
  have hmem : ∀ {d r}, r ∈ w'.host.table.entries d ↔
      r ∈ w.host.table.entries d ∨ (d = c ∧ r = ⟨id, w.listeners.size⟩) := by
    intro d r
    rw [htable, Registry.entries_listen hlisten]
    by_cases hd : d = c
    · subst hd
      simp
    · simp [hd]
  -- every registration already there has a smaller id and an older listener
  have hold : ∀ {d r}, r ∈ w.host.table.entries d → r.id < id ∧ r.listener < w.listeners.size := by
    intro d r hr
    have := hw.ids_issued hr
    exact ⟨by omega, hw.listeners_made hr⟩
  have hflag := isActive_of_listeners_push hlisteners
  have hflag_old : ∀ {l}, l < w.listeners.size → w'.isActive l = w.isActive l := by
    intro l hl
    rw [hflag, if_neg (Nat.ne_of_lt hl)]
  -- what the handles come to, read off either case
  obtain ⟨hnames, hlnodup, hhm, hkeep, hown⟩ : (w'.handles.map (·.1)).Nodup ∧
      (w'.handles.map (·.2.subscription.listener)).Nodup ∧
      (∀ {n h}, (n, h) ∈ w'.handles → (n, h) ∈ w.handles ∨
        (h.subscription.channel = c ∧ h.subscription.entry = ⟨id, w.listeners.size⟩)) ∧
      (∀ {n h}, (n, h) ∈ w.handles → (n, h) ∈ w'.handles) ∧
      (x.active = true → ∃ n h, (n, h) ∈ w'.handles ∧ h.subscription.channel = c ∧
        h.subscription.entry = ⟨id, w.listeners.size⟩) := by
    rcases hhandles with ⟨hoff, hsame⟩ | ⟨name, h, hfree, hc, he, hbind⟩
    · rw [hsame]
      refine ⟨hw.names_nodup, hw.handle_listeners_nodup, fun hm => .inl hm, fun hm => hm, ?_⟩
      intro hon
      rw [hoff] at hon
      cases hon
    · rw [hbind]
      have hfresh : name ∉ w.handles.map (·.1) := by
        intro hn
        obtain ⟨⟨n, h'⟩, hm, rfl⟩ := List.mem_map.1 hn
        have := List.lookup_eq_none_iff.1 hfree _ hm
        simp at this
      have hnew : h.subscription.listener ∉ w.handles.map (·.2.subscription.listener) := by
        intro hl
        obtain ⟨⟨n, h'⟩, hm, hsame⟩ := List.mem_map.1 hl
        have hlt' := hw.handle_listeners_made hm
        have : h.subscription.listener = w.listeners.size := congrArg Registration.listener he
        simp only at hsame
        omega
      refine ⟨List.nodup_cons.2 ⟨hfresh, hw.names_nodup⟩,
        List.nodup_cons.2 ⟨hnew, hw.handle_listeners_nodup⟩, ?_, fun hm => List.mem_cons_of_mem _ hm,
        fun _ => ⟨name, h, List.mem_cons_self, hc, he⟩⟩
      intro n h' hm
      rcases List.mem_cons.1 hm with e | hm
      · cases e
        exact .inr ⟨hc, he⟩
      · exact .inl hm
  exact {
    registersLocally := hlocal
    noEmptyEntry := htable ▸ hw.noEmptyEntry.listen hlisten
    ids_increase := by
      intro d
      rw [htable, Registry.entries_listen hlisten]
      split
      · next hd =>
        subst hd
        refine List.pairwise_append.2 ⟨hw.ids_increase d, List.pairwise_singleton _ _, ?_⟩
        intro r hr s hs
        rw [List.mem_singleton] at hs
        subst hs
        exact (hold hr).1
      · exact hw.ids_increase d
    ids_apart := by
      intro d e r s hr hs heq
      rcases hmem.1 hr with hr | ⟨rfl, rfl⟩ <;> rcases hmem.1 hs with hs | ⟨rfl, rfl⟩
      · exact hw.ids_apart hr hs heq
      · exact absurd heq (Nat.ne_of_lt (hold hr).1)
      · exact absurd heq.symm (Nat.ne_of_lt (hold hs).1)
      · rfl
    ids_issued := by
      intro d r hr
      rw [htable, hcount']
      rcases hmem.1 hr with hr | ⟨-, rfl⟩
      · have := hw.ids_issued hr
        omega
      · show id ≤ _
        omega
    listeners_made := by
      intro d r hr
      rw [hlisteners, Array.size_push]
      rcases hmem.1 hr with hr | ⟨-, rfl⟩
      · exact Nat.lt_succ_of_lt (hold hr).2
      · exact Nat.lt_succ_self _
    listeners_apart := by
      intro d e r s hr hs heq
      rcases hmem.1 hr with hr | ⟨rfl, rfl⟩ <;> rcases hmem.1 hs with hs | ⟨rfl, rfl⟩
      · exact hw.listeners_apart hr hs heq
      · exact absurd heq (Nat.ne_of_lt (hold hr).2)
      · exact absurd heq.symm (Nat.ne_of_lt (hold hs).2)
      · exact ⟨rfl, rfl⟩
    names_nodup := hnames
    handle_listeners_nodup := hlnodup
    handle_listeners_made := by
      intro n h hm
      rw [hlisteners, Array.size_push]
      rcases hhm hm with hm | ⟨-, he⟩
      · exact Nat.lt_succ_of_lt (hw.handle_listeners_made hm)
      · have : h.subscription.listener = w.listeners.size := congrArg Registration.listener he
        omega
    active_registered := by
      intro n h hm hact
      rcases hhm hm with hm | ⟨hc, he⟩
      · have hlt' := hw.handle_listeners_made hm
        rw [hflag_old hlt'] at hact
        exact hmem.2 (.inl (hw.active_registered hm hact))
      · rw [he, hc]
        exact hmem.2 (.inr ⟨rfl, rfl⟩)
    active_owned := by
      intro d r hr hact
      rcases hmem.1 hr with hr | ⟨rfl, rfl⟩
      · rw [hflag_old (hold hr).2] at hact
        obtain ⟨n, h, hm, hc, he⟩ := hw.active_owned hr hact
        exact ⟨n, h, hkeep hm, hc, he⟩
      · -- the new registration is active only when a handle was bound to it
        rw [hflag, if_pos rfl] at hact
        exact hown hact }

/-- Registering a subscription that does not come out active keeps the correspondence: a refused
registration leaves the table, a given-up one stays in it, retired. -/
theorem subscribe_inactive (hw : w.Consistent)
    (hlt : w.host.table.registrations.count.toNat < 2 ^ 64 - 1) (c : Channel) (b : BridgeRef)
    (sink : Sink) (abandon : Bool) (hres : ∀ s, (w.subscribe c b sink abandon).1 ≠ .active s) :
    (w.subscribe c b sink abandon).2.Consistent := by
  obtain ⟨hhandles, -, hout⟩ := subscribe_outcome w c b sink abandon
  have hlocal := hw.registersLocally
  rcases hout with ⟨e, hr, -, hhost, hlisteners⟩ | ⟨id, hr, -, hhost, hlisteners⟩ |
    ⟨id, -, hres', -, -⟩
  · refine hw.pushRetired ?_ ?_ rfl hlisteners hhandles
    · rw [hhost, Host.registersLocally_register]
      exact hlocal
    · rw [hhost]
      exact Host.table_of_register_error hlocal hr
  · refine hw.listen hlt (Host.listen_of_register_ok hlocal hr) ?_ (by rw [hhost]) hlisteners
      (.inl ⟨rfl, hhandles⟩)
    rw [hhost, Host.registersLocally_register]
    exact hlocal
  · exact absurd hres' (hres _)

/-- Registering a subscription that comes out active, and binding a fresh name to a handle for it,
keeps the correspondence. -/
theorem subscribe_active (hw : w.Consistent)
    (hlt : w.host.table.registrations.count.toNat < 2 ^ 64 - 1) (c : Channel) (b : BridgeRef)
    (sink : Sink) (abandon : Bool) {s : Subscription} (hres : (w.subscribe c b sink abandon).1 = .active s)
    {name : String} (hfree : w.handles.lookup name = none) (h : Handle) (hs : h.subscription = s) :
    { (w.subscribe c b sink abandon).2 with
      handles := rebind (w.subscribe c b sink abandon).2.handles name h }.Consistent := by
  obtain ⟨hhandles, -, hout⟩ := subscribe_outcome w c b sink abandon
  have hlocal := hw.registersLocally
  rcases hout with ⟨e, -, hres', -, -⟩ | ⟨id, -, hres', -, -⟩ | ⟨id, hr, hres', hhost, hlisteners⟩
  · rw [hres] at hres'
    cases hres'
  · rw [hres] at hres'
    cases hres'
  · rw [hres] at hres'
    cases hres'
    refine hw.listen hlt (Host.listen_of_register_ok hlocal hr) ?_ ?_ hlisteners
      (.inr ⟨name, h, hfree, by rw [hs], by rw [hs]; rfl, ?_⟩)
    · show (w.subscribe c b sink abandon).2.host.registersLocally = true
      rw [hhost, Host.registersLocally_acknowledge, Host.registersLocally_register]
      exact hlocal
    · show (w.subscribe c b sink abandon).2.host.table = _
      rw [hhost, Host.table_acknowledge]
    · show rebind _ name h = _
      rw [hhandles, rebind_of_lookup_eq_none hfree]

/-- Registering a subscription, and binding a fresh name to a handle for it when it comes out
active, keeps the correspondence. -/
theorem bindActive (hw : w.Consistent)
    (hlt : w.host.table.registrations.count.toNat < 2 ^ 64 - 1) (c : Channel) (b : BridgeRef)
    (sink : Sink) (abandon : Bool) {name : String} (hfree : w.handles.lookup name = none)
    (mk : Subscription → Handle) (hmk : ∀ s, (mk s).subscription = s) :
    (World.bindActive (w.subscribe c b sink abandon) name mk).Consistent := by
  unfold World.bindActive
  split
  · next s w₂ hsub =>
    have := hw.subscribe_active hlt c b sink abandon (congrArg Prod.fst hsub) hfree (mk s) (hmk s)
    rw [hsub] at this
    exact this
  · next r w₂ hnot hsub =>
    have hres : ∀ s, (w.subscribe c b sink abandon).1 ≠ .active s := by
      intro s e
      rw [hsub] at e
      exact hnot s e
    have := hw.subscribe_inactive hlt c b sink abandon hres
    rw [hsub] at this
    exact this

/-- A subscribe step keeps the correspondence. -/
theorem subscribeStep (hw : w.Consistent)
    (hlt : w.host.table.registrations.count.toNat < 2 ^ 64 - 1) (step : Json) (abandon : Bool) :
    (Protocol.subscribeStep w step abandon).2.Consistent := by
  rcases Protocol.subscribeStep_eq w step abandon with e | ⟨c, name, b, hfree, e⟩ <;> rw [e]
  · exact hw
  · -- the recording made first touches neither the host, the flags nor the handles
    have hw₁ : (w.addRecording name (c == .updaterCheck)).2.Consistent := hw.frame rfl rfl rfl rfl rfl
    exact hw₁.bindActive hlt c b _ abandon hfree .callback fun _ => rfl

/-- A stream step keeps the correspondence. -/
theorem streamStep (hw : w.Consistent)
    (hlt : w.host.table.registrations.count.toNat < 2 ^ 64 - 1) (step : Json) :
    (Protocol.streamStep w step).2.Consistent := by
  rcases Protocol.streamStep_eq w step with e | ⟨c, name, hfree, e⟩ <;> rw [e]
  · exact hw
  · -- the queue made first touches neither the host, the flags nor the handles
    have hw₁ : w.addQueue.2.Consistent := hw.frame rfl rfl rfl rfl rfl
    exact hw₁.bindActive hlt c _ _ false hfree _ fun _ => rfl

/-- A session step other than the host's own operations keeps the correspondence. -/
theorem sessionStep (hw : w.Consistent)
    (hlt : w.host.table.registrations.count.toNat < 2 ^ 64 - 1) (step : Json)
    (hop : ((step.get? "op").bind Json.str?).getD "" ∉ Protocol.hostOps) :
    (Protocol.sessionStep w step).2.Consistent := by
  unfold Protocol.sessionStep
  dsimp only
  -- the step runs on the world with its listener calls cleared
  have hw₀ : { w with deliveries := #[] }.Consistent := hw.move (.clearDeliveries w)
  rcases Protocol.runStep_cases { w with deliveries := #[] } (((step.get? "op").bind Json.str?).getD "")
    step with ⟨abandon, e⟩ | e | hhost | hmoves
  · rw [e]
    exact hw₀.subscribeStep hlt step abandon
  · rw [e]
    exact hw₀.streamStep hlt step
  · exact absurd hhost hop
  · exact hw₀.moves hmoves

/-! ## Reading the correspondence off -/

end Consistent

/-- The live count of a channel is its number of active registrations. -/
theorem liveCount_fst (w : World) (c : Channel) :
    (w.liveCount c).1 = ((w.host.table.entries c).filter fun r => w.isActive r.listener).length := by
  simp [liveCount, Registry.prune_fst]

namespace Consistent

variable {w : World}

/-- A registration table lists each registration of each channel once. -/
theorem bindings_nodup (hw : w.Consistent) : w.host.table.bindings.Nodup := by
  unfold Registry.bindings
  refine List.nodup_flatMap.2 ⟨fun c _ => ?_, Channel.nodup_all.imp fun hcd => ?_⟩
  · -- within a channel, ids increase, so no registration comes twice
    have hnodup : (w.host.table.entries c).Nodup :=
      (hw.ids_increase c).imp fun hlt e => Nat.ne_of_lt hlt (congrArg Registration.id e)
    exact hnodup.map fun _ _ e => (Prod.mk.inj e).2
  · intro b hb hb'
    obtain ⟨r, -, rfl⟩ := List.mem_map.1 hb
    obtain ⟨s, -, e⟩ := List.mem_map.1 hb'
    exact hcd (congrArg Prod.fst e).symm

/-- No id is found twice in the table, under one channel or two. -/
theorem ids_nodup (hw : w.Consistent) : (w.host.table.bindings.map (·.2.id)).Nodup := by
  refine (List.nodup_map_iff_inj_on hw.bindings_nodup).2 ?_
  rintro ⟨c, r⟩ hr ⟨d, s⟩ hs he
  rw [Registry.mem_bindings] at hr hs
  obtain rfl := hw.ids_apart hr hs he
  rw [Registration.eq_of_id_eq (hw.ids_increase c) hr hs he]

/-- The live count of a channel is its number of active subscriptions: the active handles on the
channel stand one for one for its active registrations. -/
theorem liveCount_eq (hw : w.Consistent) (c : Channel) :
    (w.liveCount c).1 = (w.handles.filter fun p =>
      p.2.subscription.channel == c && w.isActive p.2.subscription.listener).length := by
  have hlive := liveCount_fst w c
  have hnodup₁ : ((w.handles.filter fun p => p.2.subscription.channel == c &&
      w.isActive p.2.subscription.listener).map (·.2.subscription.entry)).Nodup := by
    -- the listeners of the handles are apart, and an entry carries its handle's listener
    refine List.Nodup.of_map Registration.listener ?_
    rw [List.map_map]
    exact (List.filter_sublist.map _).nodup hw.handle_listeners_nodup
  have hnodup₂ : ((w.host.table.entries c).filter fun r => w.isActive r.listener).Nodup :=
    ((hw.ids_increase c).imp fun hlt e => Nat.ne_of_lt hlt (congrArg Registration.id e)).filter _
  have hperm := (List.perm_ext_iff_of_nodup hnodup₁ hnodup₂).2 fun r => by
    constructor
    · intro hr
      obtain ⟨⟨n, h⟩, hm, rfl⟩ := List.mem_map.1 hr
      obtain ⟨hm, hsel⟩ := List.mem_filter.1 hm
      simp only [Bool.and_eq_true, beq_iff_eq] at hsel
      obtain ⟨hc, hact⟩ := hsel
      have hreg := hw.active_registered hm hact
      rw [hc] at hreg
      exact List.mem_filter.2 ⟨hreg, hact⟩
    · intro hr
      obtain ⟨hr, hact⟩ := List.mem_filter.1 hr
      obtain ⟨n, h, hm, hc, he⟩ := hw.active_owned hr hact
      have hl : h.subscription.listener = r.listener := congrArg Registration.listener he
      refine List.mem_map.2 ⟨(n, h), List.mem_filter.2 ⟨hm, ?_⟩, he⟩
      simp [hc, hl, hact]
  rw [hlive, ← hperm.length_eq, List.length_map]

/-- A list with no repeats whose members are all one element is that element alone. -/
theorem eq_singleton_of_nodup {α : Type} {l : List α} {x : α} (hnodup : l.Nodup) (hx : x ∈ l)
    (hall : ∀ y ∈ l, y = x) : l = [x] := by
  have hrep : l = List.replicate l.length x := List.eq_replicate_iff.2 ⟨rfl, hall⟩
  have hle : l.length ≤ 1 := List.nodup_replicate.1 (hrep ▸ hnodup)
  have hpos : 0 < l.length := List.length_pos_of_mem hx
  rw [hrep, show l.length = 1 by omega]
  rfl

/-- An active subscription has exactly one registration with its listener: its own. -/
theorem bindings_of_active (hw : w.Consistent) {n : String} {h : Handle} (hm : (n, h) ∈ w.handles)
    (hact : w.isActive h.subscription.listener = true) :
    w.host.table.bindings.filter (fun b => b.2.listener == h.subscription.listener) =
      [(h.subscription.channel, h.subscription.entry)] := by
  have hreg := hw.active_registered hm hact
  refine eq_singleton_of_nodup (hw.bindings_nodup.filter _) ?_ ?_
  · exact List.mem_filter.2 ⟨Registry.mem_bindings.2 hreg, by simp [Subscription.entry]⟩
  · rintro ⟨d, r⟩ hr
    obtain ⟨hr, hl⟩ := List.mem_filter.1 hr
    rw [Registry.mem_bindings] at hr
    -- two registrations with one listener are one
    obtain ⟨rfl, rfl⟩ := hw.listeners_apart hr hreg (beq_iff_eq.1 hl)
    rfl

end Consistent

/-! ## Reachable worlds -/

/-- The worlds a session reaches on a host that registers into its local table, from an empty
table, through steps other than the host's own operations, with fewer than `2 ^ 64 - 1`
registrations issued before each step. -/
inductive Reachable : World → Prop
  | start {h : Host} (hlocal : h.registersLocally = true) (hempty : h.table = .empty) :
      Reachable (.start h)
  | step {w : World} (hw : Reachable w) (step : Json)
      (hop : ((step.get? "op").bind Json.str?).getD "" ∉ Protocol.hostOps)
      (hlt : w.host.table.registrations.count.toNat < 2 ^ 64 - 1) :
      Reachable (Protocol.sessionStep w step).2

/-- A session starts with the correspondence: no registration and no handle. -/
theorem consistent_start {h : Host} (hlocal : h.registersLocally = true)
    (hempty : h.table = .empty) : (World.start h).Consistent where
  registersLocally := hlocal
  noEmptyEntry := hempty ▸ Registry.noEmptyEntry_empty
  ids_increase c := by simp [start, hempty]
  ids_apart hr := by simp [start, hempty] at hr
  ids_issued hr := by simp [start, hempty] at hr
  listeners_made hr := by simp [start, hempty] at hr
  listeners_apart hr := by simp [start, hempty] at hr
  names_nodup := List.nodup_nil
  handle_listeners_nodup := List.nodup_nil
  handle_listeners_made hm := by simp [start] at hm
  active_registered hm := by simp [start] at hm
  active_owned hr := by simp [start, hempty] at hr

/-- Every reachable world has the correspondence. -/
theorem Reachable.consistent {w : World} (hw : w.Reachable) : w.Consistent := by
  induction hw with
  | start hlocal hempty => exact consistent_start hlocal hempty
  | step _ step hop hlt ih => exact ih.sessionStep hlt step hop

/-- Registration correspondence: in every reachable world (a) the live count of a channel is the
number of its active subscriptions, (b) an active subscription has exactly one registration with
its listener, under its channel and with its id, (c) every active registration belongs to an
active subscription, so every other one is retired, and (d) ids are unique across the table and
increase along each channel, and no channel's entry is empty. -/
theorem registrations_correspond {w : World} (hw : w.Reachable) :
    (∀ c, (w.liveCount c).1 = (w.handles.filter fun p =>
      p.2.subscription.channel == c && w.isActive p.2.subscription.listener).length) ∧
    (∀ n h, (n, h) ∈ w.handles → w.isActive h.subscription.listener = true →
      w.host.table.bindings.filter (fun b => b.2.listener == h.subscription.listener) =
        [(h.subscription.channel, ⟨h.subscription.registration, h.subscription.listener⟩)]) ∧
    (∀ c r, r ∈ w.host.table.entries c → w.isActive r.listener = true →
      ∃ n h, (n, h) ∈ w.handles ∧ w.isActive h.subscription.listener = true ∧
        h.subscription.channel = c ∧ h.subscription.registration = r.id ∧
        h.subscription.listener = r.listener) ∧
    (w.host.table.bindings.map (·.2.id)).Nodup ∧
    (∀ c, (w.host.table.entries c).Pairwise fun r s => r.id < s.id) ∧
    (∀ c, w.host.table.table.get c ≠ some []) := by
  have hc := hw.consistent
  refine ⟨hc.liveCount_eq, fun n h hm hact => hc.bindings_of_active hm hact, ?_, hc.ids_nodup,
    hc.ids_increase, hc.noEmptyEntry⟩
  intro c r hr hact
  obtain ⟨n, h, hm, hch, he⟩ := hc.active_owned hr hact
  have hl : h.subscription.listener = r.listener := congrArg Registration.listener he
  exact ⟨n, h, hm, by rw [hl]; exact hact, hch, congrArg Registration.id he, hl⟩

/-- A session on a delayed host: `a` subscribes to the terminal output, a second subscribe there is
given up before its acknowledgement, `s` streams the dictation events, and `b` subscribes to them
through the bridge `other` and is cancelled. -/
def twoChannelSession : World :=
  let w₁ := (Protocol.sessionStep (start (.delayed .empty 0)) (.obj [("as", .str "a"),
    ("channel", .str "terminal-output"), ("op", .str "subscribe")])).2
  let w₂ := (Protocol.sessionStep w₁ (.obj [("as", .str "x"),
    ("channel", .str "terminal-output"), ("op", .str "subscribe_abandon")])).2
  let w₃ := (Protocol.sessionStep w₂ (.obj [("as", .str "s"),
    ("channel", .str "dictation-event"), ("op", .str "stream")])).2
  let w₄ := (Protocol.sessionStep w₃ (.obj [("as", .str "b"), ("bridge", .str "other"),
    ("channel", .str "dictation-event"), ("op", .str "subscribe")])).2
  (Protocol.sessionStep w₄ (.obj [("op", .str "cancel"), ("sub", .str "b")])).2

/-- The session is reachable. The terminal output holds `a`'s active registration and the retired
one of the given-up subscribe; the dictation events hold the stream's, `b`'s having gone with its
cancellation. The correspondence holds there. -/
theorem twoChannelSession_correspond :
    twoChannelSession.Reachable ∧
    twoChannelSession.host.table.entries .terminalOutput = [⟨1, 0⟩, ⟨2, 1⟩] ∧
    twoChannelSession.host.table.entries .dictationEvent = [⟨3, 2⟩] ∧
    twoChannelSession.isActive 0 = true ∧ twoChannelSession.isActive 1 = false ∧
    twoChannelSession.isActive 3 = false ∧
    (∀ c, (twoChannelSession.liveCount c).1 = (twoChannelSession.handles.filter fun p =>
      p.2.subscription.channel == c && twoChannelSession.isActive p.2.subscription.listener).length) ∧
    (∀ n h, (n, h) ∈ twoChannelSession.handles →
      twoChannelSession.isActive h.subscription.listener = true →
      twoChannelSession.host.table.bindings.filter (fun b => b.2.listener == h.subscription.listener) =
        [(h.subscription.channel, ⟨h.subscription.registration, h.subscription.listener⟩)]) ∧
    (∀ c r, r ∈ twoChannelSession.host.table.entries c → twoChannelSession.isActive r.listener = true →
      ∃ n h, (n, h) ∈ twoChannelSession.handles ∧
        twoChannelSession.isActive h.subscription.listener = true ∧
        h.subscription.channel = c ∧ h.subscription.registration = r.id ∧
        h.subscription.listener = r.listener) ∧
    (twoChannelSession.host.table.bindings.map (·.2.id)).Nodup ∧
    (∀ c, (twoChannelSession.host.table.entries c).Pairwise fun r s => r.id < s.id) ∧
    (∀ c, twoChannelSession.host.table.table.get c ≠ some []) :=
  -- no step asks the host behind the bridges, and the ids stay far below the last one
  have hw : twoChannelSession.Reachable :=
    .step (.step (.step (.step (.step (.start rfl rfl) _ (by decide) (by decide)) _ (by decide)
      (by decide)) _ (by decide) (by decide)) _ (by decide) (by decide)) _ (by decide) (by decide)
  ⟨hw, by decide, by decide, by decide, by decide, by decide, registrations_correspond hw⟩

end World

end ChannelBridge
