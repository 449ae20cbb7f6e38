import ChannelBridge.Proofs.Session.Accounts

/-! # Streams read what their listeners decoded

A stream handle reads the queue its listener fills. Over a whole session, on every host
(`stream_reads_in_order`):

* what the reads of the stream took, followed by what is still queued, is exactly what its
  listener decoded, in order, each once (`Accounts.items`);
* a read answers the oldest item still queued, so items queued before a cancellation stay
  readable after it;
* a read answers the end only when nothing is queued and the stream's queue was closed, which
  retires its listener, or the host no longer holds the listener's registration;
* once a read answers the end, every later read of the handle does.

The end is not tied to the subscription's own state: a registration removed from the host by its
id ends the stream while its subscription stays active (`stream_ends_after_direct_unlisten`).

That the end lasts is a property each step keeps (`Drained`): with nothing queued and the queue
closed or the listener no longer held, the listener never runs again, since a run needs an active
listener the host holds (`RunsHeld`), and neither a closed queue nor a dropped registration comes
back.
-/

namespace ChannelBridge

namespace Registry

/-- A registration adds its own listener to the table and no other. -/
theorem mem_listeners_listen {r r' : Registry} {c : Channel} {l' id l : Nat}
    (h : r.listen c l' = some (id, r')) (hl : l ∈ r'.listeners) : l ∈ r.listeners ∨ l = l' := by
  obtain ⟨d, reg, hreg, rfl⟩ := mem_listeners.1 hl
  rw [entries_listen h] at hreg
  split at hreg
  · next hd =>
    subst hd
    rcases List.mem_append.1 hreg with hreg | hreg
    · exact .inl (mem_listeners.2 ⟨d, reg, hreg, rfl⟩)
    · rw [List.mem_singleton.1 hreg]
      exact .inr rfl
  · exact .inl (mem_listeners.2 ⟨d, reg, hreg, rfl⟩)

end Registry

namespace Host

/-- Storing a registration makes the host hold its listener and no other new one. -/
theorem mem_held_register {h : Host} {c : Channel} {l' l : Nat} (hl : l ∈ (h.register c l').2.held) :
    l ∈ h.held ∨ l = l' := by
  cases h with
  | «local» t =>
    simp only [register] at hl
    split at hl
    · next id t' hlisten => exact Registry.mem_listeners_listen hlisten hl
    · exact .inl hl
  | counting t listens unlistens removed =>
    simp only [register] at hl
    split at hl
    · next id t' hlisten => exact Registry.mem_listeners_listen hlisten hl
    · exact .inl hl
  | delayed t acknowledged =>
    simp only [register] at hl
    split at hl
    · next id t' hlisten => exact Registry.mem_listeners_listen hlisten hl
    · exact .inl hl
  | failing r attempts removals spare => exact .inl hl
  | broadcast fan spare =>
    simp only [register, held, Broadcast.listen, Broadcast.listeners, List.map_append,
      List.map_cons, List.map_nil, List.mem_append, List.mem_singleton] at hl
    rcases hl with (hl | hl) | hl
    · exact .inl (List.mem_append_left _ hl)
    · exact .inr hl
    · exact .inl (List.mem_append_right _ hl)

@[simp] theorem held_acknowledge (h : Host) : h.acknowledge.held = h.held := by
  cases h <;> rfl

end Host

namespace World

variable {w w' : World} {l q : Nat}

theorem isHeld_eq_false_iff : w.isHeld l = false ↔ l ∉ w.host.held := by
  simp [isHeld]

/-! ## Closed queues and dropped registrations stay so -/

/-- No move opens a closed queue. -/
theorem queueClosed_of_move (hmove : Move w w') (hc : w.queueClosed q = true) :
    w'.queueClosed q = true := by
  have hcancel : ∀ (v : World) (h : Handle), v.queueClosed q = true →
      (v.cancelHandle h).queueClosed q = true := by
    intro v h hv
    cases h with
    | callback s =>
      show (v.cancel s).queueClosed q = true
      rwa [queueClosed_congr (queues_cancel v s)]
    | stream s q₀ =>
      show ((v.cancel s).closeQueue q₀).queueClosed q = true
      rw [queueClosed_closeQueue, queueClosed_congr (queues_cancel v s), hv, Bool.or_true]
  cases hmove with
  | enqueue q' p => rwa [queueClosed_enqueue]
  | dequeue q' => rwa [(dequeue_frame w q').2.2.2.2]
  | cancelHandle hh => exact hcancel w _ hc
  | dropHandle name =>
    unfold dropHandle
    split
    · exact hcancel _ _ hc
    · exact hc
  | closeTable =>
    have hqueues : w.closeTable.queues = w.queues := by simp [closeTable_eq, setTable]
    rwa [queueClosed_congr hqueues]
  | bump b f => rwa [queueClosed_congr (queues_bump w b f)]
  | _ => exact hc

theorem queueClosed_of_moves (hrun : Moves w w') (hc : w.queueClosed q = true) :
    w'.queueClosed q = true := by
  induction hrun with
  | refl => exact hc
  | tail _ hstep ih => exact queueClosed_of_move hstep ih

theorem host_bindActive (r : Registered × World) (name : String) (mk : Subscription → Handle) :
    (World.bindActive r name mk).host = r.2.host := by
  unfold World.bindActive
  split <;> rfl

theorem queues_bindActive (r : Registered × World) (name : String) (mk : Subscription → Handle) :
    (World.bindActive r name mk).queues = r.2.queues := by
  unfold World.bindActive
  split <;> rfl

/-- Registering a subscription makes the host hold its new listener and no other. -/
theorem mem_held_subscribe {v : World} {c : Channel} {b : BridgeRef} {sink : Sink}
    {abandon : Bool} (hl : l ∈ (v.subscribe c b sink abandon).2.host.held) :
    l ∈ v.host.held ∨ l = v.listeners.size := by
  obtain ⟨-, -, hout⟩ := subscribe_outcome v c b sink abandon
  rcases hout with ⟨_, -, -, hhost, -⟩ | ⟨_, -, -, hhost, -⟩ | ⟨_, -, -, hhost, -⟩ <;>
    rw [hhost] at hl
  · exact Host.mem_held_register hl
  · exact Host.mem_held_register hl
  · rw [Host.held_acknowledge] at hl
    exact Host.mem_held_register hl

theorem mem_held_hostListen {c : Channel} {l' : Nat} {r : Except HostError Nat}
    (h : w.hostListen c l' = (r, w')) (hl : l ∈ w'.host.held) : l ∈ w.host.held ∨ l = l' := by
  unfold hostListen at h
  rcases hreg : w.hostRegister c l' with ⟨_ | id, w₁⟩ <;> rw [hreg] at h <;> cases h
  · obtain ⟨-, hhost, -⟩ := hostRegister_eq hreg
    rw [hhost] at hl
    exact Host.mem_held_register hl
  · obtain ⟨-, hhost, -⟩ := hostRegister_eq hreg
    change l ∈ w₁.host.acknowledge.held at hl
    rw [Host.held_acknowledge, hhost] at hl
    exact Host.mem_held_register hl

/-- Registering a raw listener makes the host hold it and no other new listener. -/
theorem mem_held_listenRawStep (step : Json) (hl : l ∈ (Protocol.listenRawStep w step).2.host.held) :
    l ∈ w.host.held ∨ l = w.listeners.size := by
  unfold Protocol.listenRawStep at hl
  split at hl
  · exact .inl hl
  · dsimp only at hl
    split at hl
    · exact .inl hl
    · split at hl
      all_goals
        next hlisten =>
        have hnew := mem_held_hostListen hlisten hl
        exact hnew

/-! ## Reading a stream -/

theorem dequeue_of_itemsOf_eq_nil (h : w.itemsOf q = []) : w.dequeue q = (none, w) := by
  unfold dequeue
  split
  · next p hp =>
    unfold itemsOf at h
    cases hx : w.queues[q]? <;> simp_all
  · rfl

/-- What a read of a stream answers: its oldest item; with none left, the end once its queue is
closed or the host no longer holds its listener, and otherwise that an item is pending. -/
theorem nextStep_answer {step : Json} {s : Subscription}
    (hh : w.handles.lookup (Protocol.textOf step "sub") = some (.stream s q)) :
    (Protocol.nextStep w step).1 = match w.itemsOf q with
      | p :: _ => Json.object [("item", p.encode)]
      | [] => if w.queueClosed q || !w.isHeld s.listener then Json.object [("end", .bool true)]
        else Json.object [("pending", .bool true)] := by
  unfold Protocol.nextStep
  dsimp only
  rw [hh]
  dsimp only
  cases hi : w.itemsOf q with
  | nil =>
    rw [dequeue_of_itemsOf_eq_nil hi]
    exact apply_ite Prod.fst _ _ _
  | cons p ps =>
    have hfst := fst_dequeue w q
    rw [hi] at hfst
    rcases hdq : w.dequeue q with ⟨_ | p', w₁⟩ <;> rw [hdq] at hfst <;> cases hfst
    rfl

/-- A read that answers an item marks what it took. -/
theorem nextStepMarks_of_cons {step : Json} {s : Subscription} {p : Payload} {ps : List Payload}
    (hh : w.handles.lookup (Protocol.textOf step "sub") = some (.stream s q))
    (hi : w.itemsOf q = p :: ps) : Protocol.nextStepMarks w step = [.took q p] := by
  unfold Protocol.nextStepMarks
  rw [hh]
  dsimp only
  rw [fst_dequeue, hi]
  rfl

/-- Nothing is left to read on stream queue `q`, and nothing will be added: the queue is closed or
the host no longer holds `l`, the stream's listener. -/
def Drained (w : World) (l q : Nat) : Prop :=
  w.itemsOf q = [] ∧ (w.queueClosed q = true ∨ w.isHeld l = false)

theorem item_ne_end (x : Json) : Json.object [("item", x)] ≠ Json.object [("end", .bool true)] := by
  simp [Json.object, Json.insertMember]

theorem pending_ne_end :
    Json.object [("pending", .bool true)] ≠ Json.object [("end", .bool true)] := by
  simp [Json.object, Json.insertMember]

/-- A read of a stream answers the end exactly when the stream is drained. -/
theorem nextStep_end_iff {step : Json} {s : Subscription}
    (hh : w.handles.lookup (Protocol.textOf step "sub") = some (.stream s q)) :
    (Protocol.nextStep w step).1 = Json.object [("end", .bool true)] ↔ w.Drained s.listener q := by
  rw [nextStep_answer hh]
  unfold Drained
  cases w.itemsOf q with
  | cons p ps => simp only [reduceCtorEq, false_and, iff_false]; exact item_ne_end _
  | nil =>
    -- the end comes with a closed queue or a listener the host no longer holds
    dsimp only
    cases w.queueClosed q <;> cases w.isHeld s.listener <;> simp [pending_ne_end]

/-! ## A drained stream stays drained -/

namespace Drained

variable {c : Channel} {b : BridgeRef}

/-- A change that keeps the queue's items and its flag, and holds no listener it did not hold,
keeps a stream drained. -/
theorem frame (hd : w.Drained l q) (hitems : w'.itemsOf q = w.itemsOf q)
    (hclosed : w'.queueClosed q = w.queueClosed q) (hheld : l ∈ w'.host.held → l ∈ w.host.held) :
    w'.Drained l q := by
  obtain ⟨hempty, hc⟩ := hd
  refine ⟨hitems.trans hempty, ?_⟩
  rw [hclosed, isHeld_eq_false_iff]
  rw [isHeld_eq_false_iff] at hc
  exact hc.imp id fun hn hm => hn (hheld hm)

/-- A run of moves keeps a stream drained: its listener does not run, being retired or not held,
so nothing is queued, and what is closed or dropped stays so. -/
theorem ledger (hd : w.Drained l q) (ho : w.StreamsOpen)
    (hl : w.handlerOf l = some (.typed c b (.queue q))) {ms : List Mark} (hled : Ledger w ms w')
    (hruns : RunsHeld w ms) : w'.Drained l q := by
  have hquiet : ∀ h e, Mark.ran l h e ∉ ms := by
    intro h e hm
    obtain ⟨hact, hheld⟩ := hruns l h e hm
    rcases hd.2 with hc | hc
    · rw [ho.open_of_active hl hact] at hc
      cases hc
    · exact isHeld_eq_false_iff.1 hc hheld
  have hitems := hled.items hl
  rw [hd.1, List.nil_append, Mark.filterMap_decodedBy_eq_nil hquiet] at hitems
  refine ⟨(List.append_eq_nil_iff.1 hitems).2, ?_⟩
  rcases hd.2 with hc | hc
  · exact .inl (queueClosed_of_moves hled.moves hc)
  · rw [isHeld_eq_false_iff] at hc ⊢
    exact .inr fun hm => hc (held_of_moves hled.moves hm)

/-- Registering a subscription on a new listener keeps a stream drained. -/
theorem subscribe {v : World} (hd : v.Drained l q) (hl : l < v.listeners.size) (c : Channel)
    (b : BridgeRef) (sink : Sink) (abandon : Bool) (name : String) (mk : Subscription → Handle) :
    (World.bindActive (v.subscribe c b sink abandon) name mk).Drained l q := by
  have hqueues := (queues_bindActive _ name mk).trans (subscribe_outcome v c b sink abandon).2.1
  refine hd.frame (by rw [itemsOf_congr hqueues]) (by rw [queueClosed_congr hqueues]) fun hm => ?_
  rw [host_bindActive] at hm
  exact (mem_held_subscribe hm).resolve_right (Nat.ne_of_lt hl)

theorem addQueue (hd : w.Drained l q) (hq : q < w.queues.size) : w.addQueue.2.Drained l q :=
  hd.frame (itemsOf_addQueue w q) (by rw [queueClosed_addQueue, if_neg (Nat.ne_of_lt hq)]) id

/-- Every step of a session keeps a stream drained. -/
theorem runStep (hd : w.Drained l q) (hw : w.Wired) (ho : w.StreamsOpen)
    (hl : w.handlerOf l = some (.typed c b (.queue q))) (op : String) (step : Json) :
    (Protocol.runStep w op step).2.Drained l q := by
  have hlt : l < w.listeners.size := lt_size_of_handlerOf hl
  rcases Ledger.runStep_cases hw ho op step with ⟨abandon, e, -⟩ | ⟨e, -⟩ | ⟨hop, -⟩ |
    ⟨hled, hruns⟩
  · rw [e]
    rcases Protocol.subscribeStep_eq w step abandon with e | ⟨c', name, b', -, e⟩ <;> rw [e]
    · exact hd
    · exact subscribe (v := (w.addRecording name (c' == .updaterCheck)).2) hd hlt c' b' _ _ name _
  · rw [e]
    rcases Protocol.streamStep_eq w step with e | ⟨c', name, -, e⟩ <;> rw [e]
    · exact hd
    · exact (hd.addQueue (hw.queue_made hl)).subscribe hlt c' _ _ false name _
  · -- the host's own steps hold no old listener anew and touch no queue
    rcases Protocol.runStep_of_hostOp w step hop with e | ⟨l', e⟩ | e | ⟨c', id, e⟩ <;> rw [e]
    · have hframe := Protocol.listenRawStep_frame w step
      refine hd.frame (by rw [itemsOf_congr hframe.2.1]) (by rw [queueClosed_congr hframe.2.1])
        fun hm => ?_
      exact (mem_held_listenRawStep step hm).resolve_right (Nat.ne_of_lt hlt)
    · exact hd
    · exact hd
    · exact hd.frame rfl rfl Host.mem_held_of_unlisten
  · exact hd.ledger ho hl hled hruns

theorem sessionStep (hd : w.Drained l q) (hw : w.Wired) (ho : w.StreamsOpen)
    (hl : w.handlerOf l = some (.typed c b (.queue q))) (step : Json) :
    (Protocol.sessionStep w step).2.Drained l q := by
  rw [Protocol.sessionStep_snd]
  exact runStep (w := { w with deliveries := #[] }) hd (hw.move (.clearDeliveries w))
    (ho.move hw (.clearDeliveries w)) hl _ step

/-- A run of steps keeps a stream drained. -/
theorem runSession (hd : w.Drained l q) (hw : w.Wired) (ho : w.StreamsOpen)
    (hl : w.handlerOf l = some (.typed c b (.queue q))) (steps : List Json) :
    (Protocol.runSession w steps).2.Drained l q := by
  induction steps generalizing w with
  | nil =>
    rw [runSession_snd]
    exact hd
  | cons step rest ih =>
    rw [Protocol.runSession_cons]
    -- the listener keeps its handler
    have hl' := ((Grows.sessionStep w step).handlerOf_eq (lt_size_of_handlerOf hl)).trans hl
    exact ih (hd.sessionStep hw ho hl step) (hw.sessionStep step) (ho.sessionStep hw step) hl'

end Drained

theorem streamsOpen_of_session (host : Host) (steps : List Json) :
    (Protocol.runSession (World.start host) steps).2.StreamsOpen := by
  have h := runSession_preserves (P := fun w => w.Wired ∧ w.StreamsOpen)
    (fun _ step h => ⟨h.1.sessionStep step, h.2.sessionStep h.1 step⟩) steps
    ⟨wired_start host, streamsOpen_start host⟩
  exact h.2

/-! ## Streams over a session -/

/-- A stream reads what its listener decoded, in order, each once, on every host and after every
run of steps. What the reads took, followed by what is still queued, is what the listener decoded;
a read answers the oldest item still queued; it answers the end only when nothing is queued and
the stream was cancelled or the host no longer holds its registration; and once it answers the
end, so does every later read of the handle. -/
theorem stream_reads_in_order (host : Host) (steps later : List Json) (read : Json)
    {s : Subscription} {q : Nat}
    (hh : (Protocol.runSession (World.start host) steps).2.handles.lookup
      (Protocol.textOf read "sub") = some (.stream s q)) :
    let w := (Protocol.runSession (World.start host) steps).2
    let tr := Protocol.sessionMarks (World.start host) steps
    let w' := (Protocol.runSession w later).2
    tr.filterMap (Mark.takenFrom q) ++ w.itemsOf q =
      tr.filterMap (Mark.decodedBy s.listener s.channel) ∧
    (∀ p ps, w.itemsOf q = p :: ps →
      (Protocol.nextStep w read).1 = Json.object [("item", p.encode)] ∧
      Protocol.nextStepMarks w read = [.took q p]) ∧
    ((Protocol.nextStep w read).1 = Json.object [("end", .bool true)] →
      w.itemsOf q = [] ∧ (w.isActive s.listener = false ∨ w.isHeld s.listener = false)) ∧
    ((Protocol.nextStep w read).1 = Json.object [("end", .bool true)] →
      w'.handles.lookup (Protocol.textOf read "sub") = some (.stream s q) →
      (Protocol.nextStep w' read).1 = Json.object [("end", .bool true)]) := by
  intro w tr w'
  have hacc : Accounts w tr := Accounts.of_session host steps
  have hw : w.Wired := (wired_start host).runSession steps
  have ho : w.StreamsOpen := streamsOpen_of_session host steps
  have hmem := mem_of_lookup_eq_some hh
  have hl := hw.stream_wired hmem
  refine ⟨hacc.items hmem, fun p ps hi => ⟨?_, nextStepMarks_of_cons hh hi⟩, fun hend => ?_,
    fun hend hh' => ?_⟩
  · rw [nextStep_answer hh, hi]
  · obtain ⟨hempty, hc⟩ := (nextStep_end_iff hh).1 hend
    refine ⟨hempty, hc.imp (fun hc => ?_) id⟩
    -- an active stream reads an open queue, so a closed one's listener is retired
    cases hact : w.isActive s.listener
    · rfl
    · rw [ho.open_of_active hl hact] at hc
      cases hc
  · have hd := ((nextStep_end_iff hh).1 hend).runSession hw ho hl later
    exact (nextStep_end_iff hh').2 hd

/-- A stream of the terminal output under the name `s`. -/
def terminalStream : Json :=
  .obj [("as", .str "s"), ("channel", .str "terminal-output"), ("op", .str "stream")]

/-- A read of the stream named `s`. -/
def readStream : Json := .obj [("op", .str "next"), ("sub", .str "s")]

/-- A line of terminal `t` in workspace `w`, emitted to the terminal output. -/
def emitLine (data : String) : Json :=
  .obj [("data", .str data), ("op", .str "emit_terminal"), ("terminal_id", .str "t"),
    ("workspace_id", .str "w")]

/-- Cancelling the subscription named `s`. -/
def cancelStream : Json := .obj [("op", .str "cancel"), ("sub", .str "s")]

/-- A stream of the terminal output that receives two lines and is then cancelled. -/
def streamTwoLines : List Json := [terminalStream, emitLine "one", emitLine "two", cancelStream]

/-- The cancelled stream keeps both lines in the order they were emitted and a read answers the
first; two reads take them in that order, and from then on a read answers the end, also after a
later emit. -/
theorem terminalStream_reads_in_order :
    let w := (Protocol.runSession (World.start (.local .empty)) streamTwoLines).2
    let tr := Protocol.sessionMarks (World.start (.local .empty)) streamTwoLines
    let drained := streamTwoLines ++ [readStream, readStream]
    w.isActive 0 = false ∧
    tr.filterMap (Mark.decodedBy 0 .terminalOutput) =
      [.terminal ⟨"w", "t", "one"⟩, .terminal ⟨"w", "t", "two"⟩] ∧
    (Protocol.nextStep w readStream).1 =
      Json.object [("item", (Payload.terminal ⟨"w", "t", "one"⟩).encode)] ∧
    (Protocol.sessionMarks (World.start (.local .empty)) drained).filterMap (Mark.takenFrom 0) =
      [.terminal ⟨"w", "t", "one"⟩, .terminal ⟨"w", "t", "two"⟩] ∧
    (Protocol.nextStep (Protocol.runSession (World.start (.local .empty)) drained).2 readStream).1 =
      Json.object [("end", .bool true)] ∧
    (Protocol.nextStep (Protocol.runSession (Protocol.runSession (World.start (.local .empty))
      drained).2 [emitLine "three"]).2 readStream).1 = Json.object [("end", .bool true)] := by
  intro w tr drained
  have hh : w.handles.lookup (Protocol.textOf readStream "sub") =
      some (.stream ⟨.terminalOutput, 1, 0, .named "main"⟩ 0) := by decide
  have hh' : (Protocol.runSession (World.start (.local .empty)) drained).2.handles.lookup
      (Protocol.textOf readStream "sub") = some (.stream ⟨.terminalOutput, 1, 0, .named "main"⟩ 0) := by
    decide
  have hh'' : (Protocol.runSession (Protocol.runSession (World.start (.local .empty)) drained).2
      [emitLine "three"]).2.handles.lookup (Protocol.textOf readStream "sub") =
      some (.stream ⟨.terminalOutput, 1, 0, .named "main"⟩ 0) := by decide
  obtain ⟨horder, hread, -, -⟩ := stream_reads_in_order _ _ [] _ hh
  obtain ⟨-, -, -, hlater⟩ := stream_reads_in_order _ _ [emitLine "three"] _ hh'
  have hitems : w.itemsOf 0 = [.terminal ⟨"w", "t", "one"⟩, .terminal ⟨"w", "t", "two"⟩] := by rfl
  have htaken : tr.filterMap (Mark.takenFrom 0) = [] := by rfl
  -- drained and cancelled: the read answers the end
  have hend : (Protocol.nextStep (Protocol.runSession (World.start (.local .empty)) drained).2
      readStream).1 = Json.object [("end", .bool true)] := by rfl
  refine ⟨by decide, ?_, (hread _ _ hitems).1, by rfl, hend, hlater hend hh''⟩
  rw [← horder, htaken, hitems]
  rfl

/-- Removing the stream's registration from the host by its id. -/
def unlistenTerminal : Json :=
  .obj [("channel", .str "terminal-output"), ("op", .str "unlisten"), ("registration", .ofNat 1)]

/-- A registration removed from the host by its id ends its stream while the subscription stays
active: the read answers the end, and the listener is still active. -/
theorem stream_ends_after_direct_unlisten :
    (Protocol.nextStep (Protocol.runSession (World.start (.local .empty))
      [terminalStream, unlistenTerminal]).2 readStream).1 = Json.object [("end", .bool true)] ∧
    (Protocol.runSession (World.start (.local .empty))
      [terminalStream, unlistenTerminal]).2.isActive 0 = true := by
  have hh : (Protocol.runSession (World.start (.local .empty))
      [terminalStream, unlistenTerminal]).2.handles.lookup (Protocol.textOf readStream "sub") =
      some (.stream ⟨.terminalOutput, 1, 0, .named "main"⟩ 0) := by decide
  have hempty : ((Protocol.runSession (World.start (.local .empty))
      [terminalStream, unlistenTerminal]).2.itemsOf 0).isEmpty = true := by decide
  have hheld : (Protocol.runSession (World.start (.local .empty))
      [terminalStream, unlistenTerminal]).2.isHeld 0 = false := by decide
  refine ⟨(nextStep_end_iff hh).2 ⟨List.isEmpty_iff.1 hempty, .inr hheld⟩, by decide⟩

end World

end ChannelBridge
