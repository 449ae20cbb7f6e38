import ChannelBridge.Proofs.Session.Streams

/-! # Every number a world holds names something made

Listeners and recordings are named by their places in the world's arrays, registrations by the ids
a local table issues. Over every session that starts on a host holding nothing, each such number
names something already made:

* `Grounded`: the listeners the host holds and the raw handles name were made, and every recording
  callback records into a recording that was made; `Grounded.runSession`. (That handles and
  streams name listeners and queues that were made is part of `Wired`.)
* `Issued`: on a host that registers into its local table, every id in the table or on a handle was
  issued by the table's counter; each step keeps it while the counter is below its last value.
* `count_sessionStep_le`: a step issues at most one id, so a session of `n` steps on a fresh table
  has issued at most `n`.

So nothing in a world reaches past its own listeners, recordings and issued ids: numbering what
comes later from further on leaves the world as it is.
-/

namespace ChannelBridge

namespace Registry

/-- Below the counter's last value, a registration gets the id after the count, the count goes up
by one, and the registration is the only new one in the table. -/
theorem listen_issued {r r' : Registry} {c : Channel} {l id : Nat} (h : r.listen c l = some (id, r'))
    (hlt : r.registrations.count.toNat < 2 ^ 64 - 1) :
    id = r.registrations.count.toNat + 1 ∧
    r'.registrations.count.toNat = r.registrations.count.toNat + 1 ∧
    ∀ d, r'.entries d ⊆ r.entries d ++ [⟨id, l⟩] := by
  obtain ⟨-, hid, hcount⟩ := listen_eq_some h
  obtain ⟨hissue, hnext⟩ := IdCounter.issue_of_lt hlt
  refine ⟨hid.trans hissue, by rw [hcount, hnext], fun d => ?_⟩
  rw [entries_listen h]
  split
  · next hd => subst hd; exact List.Subset.refl _
  · exact List.subset_append_left _ _

/-- A registration counts at most one more id. -/
theorem count_listen_le {r r' : Registry} {c : Channel} {l id : Nat}
    (h : r.listen c l = some (id, r')) :
    r'.registrations.count.toNat ≤ r.registrations.count.toNat + 1 := by
  obtain ⟨-, -, hcount⟩ := listen_eq_some h
  rw [hcount]
  simp only [IdCounter.issue, UInt64.toNat_add, UInt64.toNat_one]
  omega

end Registry

namespace Host

/-- Removing a registration leaves the table's counter. -/
@[simp] theorem registrations_unlisten (h : Host) (c : Channel) (id : Nat) :
    (h.unlisten c id).2.table.registrations = h.table.registrations := by
  cases h <;> simp [unlisten, table]

/-- Removing a registration adds none to the table. -/
theorem entries_unlisten_subset (h : Host) (c d : Channel) (id : Nat) :
    (h.unlisten c id).2.table.entries d ⊆ h.table.entries d := by
  cases h with
  | «local» t => exact t.entries_unlisten_subset c d id
  | counting t a b e => exact t.entries_unlisten_subset c d id
  | delayed t a => exact t.entries_unlisten_subset c d id
  | failing r a b t => exact List.Subset.refl _
  | broadcast fan t => exact List.Subset.refl _

/-- Storing a registration counts at most one more id. -/
theorem count_register_le (h : Host) (c : Channel) (l : Nat) :
    (h.register c l).2.table.registrations.count.toNat ≤ h.table.registrations.count.toNat + 1 := by
  cases h with
  | «local» t | counting t a b e | delayed t a =>
    simp only [register]
    split
    · next id t' hlisten => exact Registry.count_listen_le hlisten
    · simp [table]
  | failing r a b t => simp [register, table]
  | broadcast fan t => simp [register, table]

end Host

namespace World

variable {w w' : World} {l : Nat}

/-! ## What leaves the raw handles, the recordings and the counter -/

@[simp] theorem raws_bump (w : World) (b : BridgeRef) (f : BridgeStats → BridgeStats) :
    (w.bump b f).raws = w.raws := by
  cases b <;> rfl

@[simp] theorem records_bump (w : World) (b : BridgeRef) (f : BridgeStats → BridgeStats) :
    (w.bump b f).records = w.records := by
  cases b <;> rfl

@[simp] theorem raws_cancel (w : World) (s : Subscription) : (w.cancel s).raws = w.raws := by
  unfold cancel
  split
  · cases s.bridge <;> rfl
  · rfl

@[simp] theorem raws_retireAll (w : World) (ls : List Nat) : (ls.foldl retire w).raws = w.raws := by
  induction ls generalizing w with
  | nil => rfl
  | cons l rest ih => rw [List.foldl_cons, ih]; rfl

@[simp] theorem records_retireAll (w : World) (ls : List Nat) :
    (ls.foldl retire w).records = w.records := by
  induction ls generalizing w with
  | nil => rfl
  | cons l rest ih => rw [List.foldl_cons, ih]; rfl

theorem cancelHandle_frame (w : World) (h : Handle) :
    (w.cancelHandle h).raws = w.raws ∧ (w.cancelHandle h).records = w.records := by
  cases h <;> simp [cancelHandle, closeQueue]

/-- Cancelling removes at most a registration; the counter stays. -/
theorem table_cancelHandle (w : World) (h : Handle) :
    (∀ c, (w.cancelHandle h).host.table.entries c ⊆ w.host.table.entries c) ∧
    (w.cancelHandle h).host.table.registrations = w.host.table.registrations := by
  have hhost : (w.cancelHandle h).host = (w.cancel h.subscription).host := by
    cases h <;> rfl
  rw [hhost, host_cancel]
  split
  · exact ⟨fun c => Host.entries_unlisten_subset _ _ c _, Host.registrations_unlisten _ _ _⟩
  · exact ⟨fun _ => List.Subset.refl _, rfl⟩

/-- No move touches the raw handles or the number of recordings. -/
theorem raws_records_move (hmove : Move w w') :
    w'.raws = w.raws ∧ w'.records.size = w.records.size := by
  cases hmove with
  | recordPayload r p => simp [recordPayload]
  | dequeue q => unfold dequeue; split <;> exact ⟨rfl, rfl⟩
  | cancelHandle hh => simp [cancelHandle_frame]
  | dropHandle name =>
    unfold dropHandle
    split
    · simp [cancelHandle_frame]
    · exact ⟨rfl, rfl⟩
  | closeTable => simp [closeTable_eq, setTable, logEvent]
  | bump b f => simp
  | _ => exact ⟨rfl, rfl⟩

/-- No move adds a registration to the local table or issues an id. -/
theorem table_move (hmove : Move w w') :
    (∀ c, w'.host.table.entries c ⊆ w.host.table.entries c) ∧
    w'.host.table.registrations = w.host.table.registrations := by
  cases hmove with
  | dequeue q => rw [(dequeue_frame w q).2.2.1]; exact ⟨fun _ => List.Subset.refl _, rfl⟩
  | nextEvent => simp [setTable, Registry.nextEvent, Registry.entries]
  | prune d =>
    simp only [setTable, Host.table_setTable, Registry.registrations_prune, and_true]
    exact fun c => Registry.entries_prune_subset _ d c _
  | cancelHandle hh => exact table_cancelHandle w _
  | dropHandle name =>
    unfold dropHandle
    split
    · exact table_cancelHandle _ _
    · exact ⟨fun _ => List.Subset.refl _, rfl⟩
  | closeTable =>
    rw [closeTable_eq, host_logEvent, host_retireAll]
    simp only [setTable, Host.table_setTable]
    exact ⟨fun c => Registry.entries_close_subset _ c, rfl⟩
  | bump b f => rw [host_bump]; exact ⟨fun _ => List.Subset.refl _, rfl⟩
  | _ => exact ⟨fun _ => List.Subset.refl _, rfl⟩

theorem table_moves (hrun : Moves w w') :
    (∀ c, w'.host.table.entries c ⊆ w.host.table.entries c) ∧
    w'.host.table.registrations = w.host.table.registrations := by
  induction hrun with
  | refl => exact ⟨fun _ => List.Subset.refl _, rfl⟩
  | tail _ hstep ih =>
    obtain ⟨hsub, hcount⟩ := table_move hstep
    exact ⟨fun c => List.Subset.trans (hsub c) (ih.1 c), hcount.trans ih.2⟩

/-- No move changes what kind of host the session runs on. -/
theorem registersLocally_move (hmove : Move w w') :
    w'.host.registersLocally = w.host.registersLocally := by
  have hcancel : ∀ (v : World) (h : Handle),
      (v.cancelHandle h).host.registersLocally = v.host.registersLocally := by
    intro v h
    have hhost : (v.cancelHandle h).host = (v.cancel h.subscription).host := by
      cases h <;> rfl
    rw [hhost, host_cancel]
    split
    · exact Host.registersLocally_unlisten _ _ _
    · rfl
  cases hmove with
  | dequeue q => rw [(dequeue_frame w q).2.2.1]
  | nextEvent => simp [setTable]
  | prune d => simp [setTable]
  | cancelHandle hh => exact hcancel w _
  | dropHandle name =>
    unfold dropHandle
    split
    · exact hcancel _ _
    · rfl
  | closeTable => simp [closeTable_eq, setTable]
  | bump b f => rw [host_bump]
  | _ => rfl

theorem registersLocally_moves (hrun : Moves w w') :
    w'.host.registersLocally = w.host.registersLocally := by
  induction hrun with
  | refl => rfl
  | tail _ hstep ih => exact (registersLocally_move hstep).trans ih

theorem hostRegister_frame {c : Channel} {r : Except HostError Nat}
    (h : w.hostRegister c l = (r, w')) : w'.raws = w.raws ∧ w'.records = w.records := by
  unfold hostRegister at h
  rcases hr : w.host.register c l with ⟨_ | id, host⟩ <;> rw [hr] at h
  · cases h
    exact ⟨rfl, rfl⟩
  · dsimp only at h
    split at h <;> cases h <;> exact ⟨rfl, rfl⟩

theorem hostListen_frame {c : Channel} {r : Except HostError Nat}
    (h : w.hostListen c l = (r, w')) : w'.raws = w.raws ∧ w'.records = w.records := by
  unfold hostListen at h
  rcases hreg : w.hostRegister c l with ⟨_ | id, w₁⟩ <;> rw [hreg] at h <;> cases h
  all_goals
    obtain ⟨hraws, hrecords⟩ := hostRegister_frame hreg
    exact ⟨hraws, hrecords⟩

/-- Registering through the world registers on the host and waits for its acknowledgement. -/
theorem host_hostListen {c : Channel} {r : Except HostError Nat} (h : w.hostListen c l = (r, w')) :
    (w.host.register c l).1 = r ∧
      (w'.host = (w.host.register c l).2 ∨ w'.host = (w.host.register c l).2.acknowledge) := by
  unfold hostListen at h
  rcases hreg : w.hostRegister c l with ⟨_ | id, w₁⟩ <;> rw [hreg] at h <;> cases h
  · obtain ⟨hr, hhost, -⟩ := hostRegister_eq hreg
    exact ⟨hr, .inl hhost⟩
  · obtain ⟨hr, hhost, -⟩ := hostRegister_eq hreg
    exact ⟨hr, .inr (by rw [← hhost]; rfl)⟩

theorem subscribe_frame (w : World) (c : Channel) (b : BridgeRef) (sink : Sink) (abandon : Bool) :
    (w.subscribe c b sink abandon).2.raws = w.raws ∧
    (w.subscribe c b sink abandon).2.records = w.records := by
  unfold subscribe
  dsimp only [addListener]
  split
  · next e w₁ hreg =>
    obtain ⟨hraws, hrecords⟩ := hostRegister_frame hreg
    exact ⟨hraws, hrecords⟩
  · next id w₁ hreg =>
    obtain ⟨hraws, hrecords⟩ := hostRegister_frame hreg
    split
    · exact ⟨hraws, hrecords⟩
    · cases b <;> exact ⟨hraws, hrecords⟩

/-- With one more listener, the new one has its own handler and the others keep theirs. -/
theorem handlerOf_of_listeners_push {x : Listener} (h : w'.listeners = w.listeners.push x) (m : Nat) :
    w'.handlerOf m = if m = w.listeners.size then some x.handler else w.handlerOf m := by
  unfold handlerOf
  rw [h, Array.getElem?_push]
  split <;> rfl

/-! ## Listeners and recordings that were made -/

/-- Every listener the host holds or a raw handle names was made, and every recording callback
records into a recording that was made. -/
structure Grounded (w : World) : Prop where
  held_made : ∀ {l}, l ∈ w.host.held → l < w.listeners.size
  raw_made : ∀ {n l}, (n, l) ∈ w.raws → l < w.listeners.size
  record_made : ∀ {l c b n r rs}, w.handlerOf l = some (.typed c b (.record n r rs)) →
    r < w.records.size

namespace Grounded

/-- A change that holds no new listener and keeps the handlers, the raw handles and the number of
listeners and recordings keeps the grounding. -/
theorem frame (hg : w.Grounded) (hheld : ∀ {l}, l ∈ w'.host.held → l ∈ w.host.held)
    (hsize : w'.listeners.size = w.listeners.size) (hhandler : ∀ l, w'.handlerOf l = w.handlerOf l)
    (hraws : w'.raws = w.raws) (hrecords : w'.records.size = w.records.size) : w'.Grounded where
  held_made hl := by rw [hsize]; exact hg.held_made (hheld hl)
  raw_made hm := by rw [hsize]; exact hg.raw_made (hraws ▸ hm)
  record_made hh := by rw [hrecords]; exact hg.record_made (hhandler _ ▸ hh)

theorem move (hg : w.Grounded) (hmove : Move w w') : w'.Grounded :=
  hg.frame (held_of_move hmove) (size_move hmove)
    ((Grows.move hmove).handlerOf_eq_of_size (size_move hmove)) (raws_records_move hmove).1
    (raws_records_move hmove).2

theorem moves (hg : w.Grounded) (hrun : Moves w w') : w'.Grounded :=
  Moves.preserves (fun hmove hg => hg.move hmove) hrun hg

/-- A new listener keeps the grounding when it is the only new listener the host holds or a raw
handle names, and it records, if at all, into a recording that was made. -/
theorem pushListener (hg : w.Grounded) {x : Listener} (hlisteners : w'.listeners = w.listeners.push x)
    (hheld : ∀ {l}, l ∈ w'.host.held → l ∈ w.host.held ∨ l = w.listeners.size)
    (hraws : ∀ {n l}, (n, l) ∈ w'.raws → (n, l) ∈ w.raws ∨ l = w.listeners.size)
    (hrecords : w.records.size ≤ w'.records.size)
    (hx : ∀ {c b n r rs}, x.handler = .typed c b (.record n r rs) → r < w'.records.size) :
    w'.Grounded where
  held_made hl := by
    rw [hlisteners, Array.size_push]
    rcases hheld hl with hl | rfl
    · exact Nat.lt_succ_of_lt (hg.held_made hl)
    · exact Nat.lt_succ_self _
  raw_made hm := by
    rw [hlisteners, Array.size_push]
    rcases hraws hm with hm | rfl
    · exact Nat.lt_succ_of_lt (hg.raw_made hm)
    · exact Nat.lt_succ_self _
  record_made hh := by
    rw [handlerOf_of_listeners_push hlisteners] at hh
    split at hh
    · exact hx (Option.some.inj hh)
    · exact Nat.lt_of_lt_of_le (hg.record_made hh) hrecords

theorem addRecording (hg : w.Grounded) (name : String) (counted : Bool) :
    (w.addRecording name counted).2.Grounded where
  held_made := hg.held_made
  raw_made := hg.raw_made
  record_made hh := by
    simp only [World.addRecording, Array.size_push]
    exact Nat.lt_succ_of_lt (hg.record_made hh)

theorem addQueue (hg : w.Grounded) : w.addQueue.2.Grounded :=
  ⟨hg.held_made, hg.raw_made, hg.record_made⟩

theorem subscribe (hg : w.Grounded) (c : Channel) (b : BridgeRef) (sink : Sink) (abandon : Bool)
    (hsink : ∀ {n r rs}, sink = .record n r rs → r < w.records.size) :
    (w.subscribe c b sink abandon).2.Grounded := by
  obtain ⟨-, -, hout⟩ := subscribe_outcome w c b sink abandon
  obtain ⟨hraws, hrecords⟩ := subscribe_frame w c b sink abandon
  -- the new listener is the subscription's, active or retired
  have hpush : ∃ x : Listener, (w.subscribe c b sink abandon).2.listeners = w.listeners.push x ∧
      x.handler = .typed c b sink := by
    rcases hout with ⟨_, -, -, -, h⟩ | ⟨_, -, -, -, h⟩ | ⟨_, -, -, -, h⟩ <;> exact ⟨_, h, rfl⟩
  obtain ⟨x, hx, hhandler⟩ := hpush
  refine hg.pushListener hx mem_held_subscribe (fun hm => .inl (hraws ▸ hm))
    (Nat.le_of_eq (by rw [hrecords])) fun h => ?_
  rw [hhandler] at h
  cases h
  rw [hrecords]
  exact hsink rfl

theorem bindActive {r : Registered × World} (hg : r.2.Grounded) (name : String)
    (mk : Subscription → Handle) : (World.bindActive r name mk).Grounded := by
  obtain ⟨reg, v⟩ := r
  cases reg with
  | active s => exact ⟨hg.held_made, hg.raw_made, hg.record_made⟩
  | abandoned => exact hg
  | failed e => exact hg

theorem subscribeStep (hg : w.Grounded) (step : Json) (abandon : Bool) :
    (Protocol.subscribeStep w step abandon).2.Grounded := by
  rcases Protocol.subscribeStep_eq w step abandon with e | ⟨c, name, b, -, e⟩ <;> rw [e]
  · exact hg
  · refine bindActive ((hg.addRecording name _).subscribe c b _ abandon fun h => ?_) _ _
    cases h
    simp [World.addRecording]

theorem streamStep (hg : w.Grounded) (step : Json) : (Protocol.streamStep w step).2.Grounded := by
  rcases Protocol.streamStep_eq w step with e | ⟨c, name, -, e⟩ <;> rw [e]
  · exact hg
  · exact bindActive (hg.addQueue.subscribe c _ _ false fun h => by cases h) _ _

theorem listenRawStep (hg : w.Grounded) (step : Json) :
    (Protocol.listenRawStep w step).2.Grounded := by
  unfold Protocol.listenRawStep
  split
  · exact hg
  · dsimp only
    split
    · exact hg
    · next name _ =>
      -- the raw listener is the one new listener; on success its name is bound to it
      split
      · next id w₁ hl =>
        obtain ⟨hlist, -, -⟩ := hostListen_eq hl
        obtain ⟨hraws, hrecords⟩ := hostListen_frame hl
        have hheld := fun {m : Nat} (hm : m ∈ w₁.host.held) => mem_held_hostListen (l := m) hl hm
        refine hg.pushListener hlist hheld (fun hm => ?_)
          (by rw [hrecords]; exact Nat.le_refl _) fun h => by cases h
        rcases List.mem_cons.1 hm with he | hm
        · exact .inr (Prod.mk.inj he).2
        · exact .inl (hraws ▸ (List.mem_filter.1 hm).1)
      · next e w₁ hl =>
        obtain ⟨hlist, -, -⟩ := hostListen_eq hl
        obtain ⟨hraws, hrecords⟩ := hostListen_frame hl
        have hheld := fun {m : Nat} (hm : m ∈ w₁.host.held) => mem_held_hostListen (l := m) hl hm
        exact hg.pushListener hlist hheld (fun hm => .inl (hraws ▸ hm))
          (by rw [hrecords]; exact Nat.le_refl _) fun h => by cases h

theorem runStep (hg : w.Grounded) (op : String) (step : Json) :
    (Protocol.runStep w op step).2.Grounded := by
  rcases Protocol.runStep_cases w op step with ⟨abandon, e⟩ | e | hop | hmoves
  · rw [e]
    exact hg.subscribeStep step abandon
  · rw [e]
    exact hg.streamStep step
  · rcases Protocol.runStep_of_hostOp w step hop with e | ⟨l, e⟩ | e | ⟨c, id, e⟩ <;> rw [e]
    · exact hg.listenRawStep step
    · exact hg.frame id (size_retire w l)
        ((Grows.retire w l).handlerOf_eq_of_size (size_retire w l)) rfl rfl
    · exact hg
    · exact hg.frame Host.mem_held_of_unlisten rfl (fun _ => rfl) rfl rfl
  · exact hg.moves hmoves

theorem sessionStep (hg : w.Grounded) (step : Json) : (Protocol.sessionStep w step).2.Grounded := by
  rw [Protocol.sessionStep_snd]
  exact (hg.move (.clearDeliveries w)).runStep _ step

theorem runSession (hg : w.Grounded) (steps : List Json) :
    (Protocol.runSession w steps).2.Grounded :=
  runSession_preserves (fun _ step h => h.sessionStep step) steps hg

/-- A session on a host that holds nothing starts grounded. -/
theorem start {host : Host} (hheld : host.held = []) : (World.start host).Grounded where
  held_made hl := by simp [World.start, hheld] at hl
  raw_made hm := by simp [World.start] at hm
  record_made hh := by simp [World.start, handlerOf] at hh

end Grounded

/-! ## Ids that were issued -/

/-- Every id in the local table or on a handle was issued by the table's counter, on a host that
registers into its table. -/
structure Issued (w : World) : Prop where
  registersLocally : w.host.registersLocally = true
  entry_issued : ∀ {c r}, r ∈ w.host.table.entries c →
    r.id ≤ w.host.table.registrations.count.toNat
  handle_issued : ∀ {n h}, (n, h) ∈ w.handles →
    h.subscription.registration ≤ w.host.table.registrations.count.toNat

namespace Issued

/-- A change that keeps the kind of host and the counter and adds no registration and no handle
keeps the ids issued. -/
theorem frame (hi : w.Issued) (hlocal : w'.host.registersLocally = w.host.registersLocally)
    (hentries : ∀ c, w'.host.table.entries c ⊆ w.host.table.entries c)
    (hcount : w'.host.table.registrations = w.host.table.registrations)
    (hhandles : ∀ {n h}, (n, h) ∈ w'.handles → (n, h) ∈ w.handles) : w'.Issued where
  registersLocally := hlocal.trans hi.registersLocally
  entry_issued hr := by rw [hcount]; exact hi.entry_issued (hentries _ hr)
  handle_issued hm := by rw [hcount]; exact hi.handle_issued (hhandles hm)

theorem moves (hi : w.Issued) (hrun : Moves w w') : w'.Issued :=
  hi.frame (registersLocally_moves hrun) (table_moves hrun).1 (table_moves hrun).2
    (mem_handles_of_moves hrun)

/-- The table a host is left with after a registration keeps the ids issued, and a registration
that succeeds has an issued id. -/
theorem register (hi : w.Issued) (hlt : w.host.table.registrations.count.toNat < 2 ^ 64 - 1)
    (c : Channel) (l : Nat) {h : Host}
    (hh : h = (w.host.register c l).2 ∨ h = (w.host.register c l).2.acknowledge) :
    h.registersLocally = true ∧
    (∀ {d r}, r ∈ h.table.entries d → r.id ≤ h.table.registrations.count.toNat) ∧
    w.host.table.registrations.count.toNat ≤ h.table.registrations.count.toNat ∧
    ∀ id, (w.host.register c l).1 = .ok id → id ≤ h.table.registrations.count.toNat := by
  have htable : h.table = (w.host.register c l).2.table := by
    rcases hh with rfl | rfl <;> simp
  have hlocal : h.registersLocally = true := by
    rcases hh with rfl | rfl <;> simp [hi.registersLocally]
  rw [htable]
  refine ⟨hlocal, ?_⟩
  cases hr : (w.host.register c l).1 with
  | error e =>
    -- a refused registration leaves the table
    rw [Host.table_of_register_error hi.registersLocally hr]
    exact ⟨hi.entry_issued, Nat.le_refl _, fun _ h => by cases h⟩
  | ok id =>
    obtain ⟨hid, hcount, hsub⟩ :=
      Registry.listen_issued (Host.listen_of_register_ok hi.registersLocally hr) hlt
    refine ⟨fun hreg => ?_, by omega, fun id' h => ?_⟩
    · rcases List.mem_append.1 (hsub _ hreg) with hreg | hreg
      · have := hi.entry_issued hreg
        omega
      · rw [List.mem_singleton.1 hreg]
        dsimp only
        omega
    · cases h
      omega

theorem addRecording (hi : w.Issued) (name : String) (counted : Bool) :
    (w.addRecording name counted).2.Issued :=
  ⟨hi.registersLocally, hi.entry_issued, hi.handle_issued⟩

theorem addQueue (hi : w.Issued) : w.addQueue.2.Issued :=
  ⟨hi.registersLocally, hi.entry_issued, hi.handle_issued⟩

/-- Registering a subscription keeps the ids issued, and an active subscription's id was issued. -/
theorem subscribe (hi : w.Issued) (hlt : w.host.table.registrations.count.toNat < 2 ^ 64 - 1)
    (c : Channel) (b : BridgeRef) (sink : Sink) (abandon : Bool) :
    (w.subscribe c b sink abandon).2.Issued ∧ ∀ s, (w.subscribe c b sink abandon).1 = .active s →
      s.registration ≤ (w.subscribe c b sink abandon).2.host.table.registrations.count.toNat := by
  obtain ⟨hhandles, -, hout⟩ := subscribe_outcome w c b sink abandon
  have hhost : (w.subscribe c b sink abandon).2.host = (w.host.register c w.listeners.size).2 ∨
      (w.subscribe c b sink abandon).2.host = (w.host.register c w.listeners.size).2.acknowledge := by
    rcases hout with ⟨_, -, -, h, -⟩ | ⟨_, -, -, h, -⟩ | ⟨_, -, -, h, -⟩
    · exact .inl h
    · exact .inl h
    · exact .inr h
  obtain ⟨hlocal, hentries, hle, hid⟩ := hi.register hlt c w.listeners.size hhost
  refine ⟨⟨hlocal, hentries, fun hm => ?_⟩, fun s hs => ?_⟩
  · rw [hhandles] at hm
    exact Nat.le_trans (hi.handle_issued hm) hle
  · rcases hout with ⟨_, -, h, -⟩ | ⟨_, -, h, -⟩ | ⟨id, hr, h, -, -⟩ <;> rw [h] at hs <;> cases hs
    exact hid id hr

theorem bindActive {r : Registered × World} (hi : r.2.Issued)
    (hs : ∀ s, r.1 = .active s → s.registration ≤ r.2.host.table.registrations.count.toNat)
    (name : String) (mk : Subscription → Handle) (hmk : ∀ s, (mk s).subscription = s) :
    (World.bindActive r name mk).Issued := by
  obtain ⟨reg, v⟩ := r
  cases reg with
  | active s =>
    refine ⟨hi.registersLocally, hi.entry_issued, fun hm => ?_⟩
    rcases mem_rebind hm with ⟨-, rfl⟩ | hm
    · rw [hmk]
      exact hs s rfl
    · exact hi.handle_issued hm
  | abandoned => exact hi
  | failed e => exact hi

theorem subscribeStep (hi : w.Issued) (hlt : w.host.table.registrations.count.toNat < 2 ^ 64 - 1)
    (step : Json) (abandon : Bool) : (Protocol.subscribeStep w step abandon).2.Issued := by
  rcases Protocol.subscribeStep_eq w step abandon with e | ⟨c, name, b, -, e⟩ <;> rw [e]
  · exact hi
  · obtain ⟨hsub, hs⟩ := (hi.addRecording name _).subscribe hlt c b
      (.record name w.records.size (Protocol.reactionsOf step)) abandon
    exact bindActive hsub hs _ _ fun _ => rfl

theorem streamStep (hi : w.Issued) (hlt : w.host.table.registrations.count.toNat < 2 ^ 64 - 1)
    (step : Json) : (Protocol.streamStep w step).2.Issued := by
  rcases Protocol.streamStep_eq w step with e | ⟨c, name, -, e⟩ <;> rw [e]
  · exact hi
  · obtain ⟨hsub, hs⟩ := hi.addQueue.subscribe hlt c (.named (Protocol.bridgeOf step))
      (.queue w.queues.size) false
    exact bindActive hsub hs _ _ fun _ => rfl

theorem listenRawStep (hi : w.Issued) (hlt : w.host.table.registrations.count.toNat < 2 ^ 64 - 1)
    (step : Json) : (Protocol.listenRawStep w step).2.Issued := by
  have hraw : ∀ {c : Channel} {x : Handler} {r : Except HostError Nat} {w₁ : World},
      (w.addListener x).2.hostListen c (w.addListener x).1 = (r, w₁) → w₁.Issued := by
    intro c x r w₁ hl
    obtain ⟨-, hhandles, -⟩ := hostListen_eq hl
    obtain ⟨-, hhost⟩ := host_hostListen hl
    have hi' : (w.addListener x).2.Issued := ⟨hi.registersLocally, hi.entry_issued, hi.handle_issued⟩
    obtain ⟨hlocal, hentries, hle, -⟩ := hi'.register hlt c _ hhost
    refine ⟨hlocal, hentries, fun hm => ?_⟩
    rw [hhandles] at hm
    exact Nat.le_trans (hi.handle_issued hm) hle
  unfold Protocol.listenRawStep
  split
  · exact hi
  · dsimp only
    split
    · exact hi
    · split
      · next id w₁ hl =>
        have h₁ := hraw hl
        exact ⟨h₁.registersLocally, h₁.entry_issued, h₁.handle_issued⟩
      · next e w₁ hl => exact hraw hl

theorem runStep (hi : w.Issued) (hlt : w.host.table.registrations.count.toNat < 2 ^ 64 - 1)
    (op : String) (step : Json) : (Protocol.runStep w op step).2.Issued := by
  rcases Protocol.runStep_cases w op step with ⟨abandon, e⟩ | e | hop | hmoves
  · rw [e]
    exact hi.subscribeStep hlt step abandon
  · rw [e]
    exact hi.streamStep hlt step
  · rcases Protocol.runStep_of_hostOp w step hop with e | ⟨l, e⟩ | e | ⟨c, k, e⟩ <;> rw [e]
    · exact hi.listenRawStep hlt step
    · exact ⟨hi.registersLocally, hi.entry_issued, hi.handle_issued⟩
    · exact hi
    · exact hi.frame (Host.registersLocally_unlisten _ _ _)
        (fun d => Host.entries_unlisten_subset _ c d k) (Host.registrations_unlisten _ _ _) id
  · exact hi.moves hmoves

theorem sessionStep (hi : w.Issued) (hlt : w.host.table.registrations.count.toNat < 2 ^ 64 - 1)
    (step : Json) : (Protocol.sessionStep w step).2.Issued := by
  rw [Protocol.sessionStep_snd]
  exact (hi.moves (.single (.clearDeliveries w))).runStep hlt _ step

end Issued

/-! ## One id per step at most -/

theorem count_subscribe_le (w : World) (c : Channel) (b : BridgeRef) (sink : Sink) (abandon : Bool) :
    (w.subscribe c b sink abandon).2.host.table.registrations.count.toNat ≤
      w.host.table.registrations.count.toNat + 1 := by
  obtain ⟨-, -, hout⟩ := subscribe_outcome w c b sink abandon
  rcases hout with ⟨_, -, -, h, -⟩ | ⟨_, -, -, h, -⟩ | ⟨_, -, -, h, -⟩ <;> rw [h]
  all_goals simpa using Host.count_register_le w.host c w.listeners.size

theorem count_bindActive (r : Registered × World) (name : String) (mk : Subscription → Handle) :
    (World.bindActive r name mk).host.table.registrations = r.2.host.table.registrations := by
  rw [host_bindActive]

theorem count_listenRawStep_le (w : World) (step : Json) :
    (Protocol.listenRawStep w step).2.host.table.registrations.count.toNat ≤
      w.host.table.registrations.count.toNat + 1 := by
  have hraw : ∀ {c : Channel} {x : Handler} {r : Except HostError Nat} {w₁ : World},
      (w.addListener x).2.hostListen c (w.addListener x).1 = (r, w₁) →
      w₁.host.table.registrations.count.toNat ≤ w.host.table.registrations.count.toNat + 1 := by
    intro c x r w₁ hl
    rcases (host_hostListen hl).2 with h | h <;> rw [h]
    all_goals simpa using Host.count_register_le w.host c _
  unfold Protocol.listenRawStep
  split
  · exact Nat.le_succ _
  · dsimp only
    split
    · exact Nat.le_succ _
    · split
      · next id w₁ hl =>
        have h₁ := hraw hl
        exact h₁
      · next e w₁ hl => exact hraw hl

/-- A step issues at most one id: only a subscription, a stream or a raw listener registers, and
each registers once. -/
theorem count_sessionStep_le (w : World) (step : Json) :
    (Protocol.sessionStep w step).2.host.table.registrations.count.toNat ≤
      w.host.table.registrations.count.toNat + 1 := by
  rw [Protocol.sessionStep_snd]
  set w₀ : World := { w with deliveries := #[] }
  have hw₀ : w₀.host = w.host := rfl
  rw [← hw₀]
  rcases Protocol.runStep_cases w₀ (((step.get? "op").bind Json.str?).getD "") step with
    ⟨abandon, e⟩ | e | hop | hmoves
  · rw [e]
    rcases Protocol.subscribeStep_eq w₀ step abandon with e | ⟨c, name, b, -, e⟩ <;> rw [e]
    · exact Nat.le_succ _
    · rw [count_bindActive]
      exact count_subscribe_le _ c b _ abandon
  · rw [e]
    rcases Protocol.streamStep_eq w₀ step with e | ⟨c, name, -, e⟩ <;> rw [e]
    · exact Nat.le_succ _
    · rw [count_bindActive]
      exact count_subscribe_le _ c _ _ false
  · rcases Protocol.runStep_of_hostOp w₀ step hop with e | ⟨l, e⟩ | e | ⟨c, id, e⟩ <;> rw [e]
    · exact count_listenRawStep_le w₀ step
    · exact Nat.le_succ _
    · exact Nat.le_succ _
    · simp [hostUnlisten, setHost]
  · rw [(table_moves hmoves).2]
    exact Nat.le_succ _

end World

end ChannelBridge
