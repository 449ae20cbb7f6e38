import ChannelBridge.Proofs.Payload.RoundTrip
import ChannelBridge.Session.Deliver

/-! # Emitting a received payload again

A listener gets the payload its channel's reader made of the envelope's JSON. Emitting that payload
again writes it (`Payload.encode`), and every bridge listener on the channel reads the written JSON
back. The payloads a reader makes are the ones whose writing reads back unchanged, but for one kind:
a level read from a number beyond the single range is infinite, and an infinite single is written as
`null`, which the reader refuses.

* `Payload.channel_of_decode`, `AppServerMessage.readBack_of_decode`: what a read payload is like —
  it belongs to the channel it was read on, and a read request id is never `null`.
* `Payload.reencode_reads_back`: over every JSON value and channel, the written payload reads back as
  itself exactly when it is not a non-finite level; such a level is refused as `null`; and, when it
  reads back, every bridge listener's handler does with the re-emitted envelope what it did with the
  received one.
-/

namespace ChannelBridge

/-! ## What a reader makes -/

namespace AppServerMessage

/-- The optional id reader never gives an id of `null`: it takes `null` as no id. -/
theorem optional_anyValue_ne_null {v : Json} {o : Option Json}
    (h : Decode.optional anyValue v = .ok o) : o ≠ some .null := by
  rw [optional_anyValue] at h
  cases v <;> simp only [Except.ok.injEq] at h <;> subst h <;> simp

/-- A read message has no id of `null`, so it is its own read-back. -/
theorem readBack_of_decode {j : Json} {m : AppServerMessage} (h : decode j = .ok m) :
    m.readBack = m := by
  unfold decode at h
  cases hr : Decode.record "struct AppServerMessage" schema j with
  | error e => simp [hr, bind, Except.bind] at h
  | ok found =>
    cases hid : Decode.withDefault found "id" (Decode.optional anyValue) none with
    | error e => simp [hr, hid, bind, Except.bind] at h
    | ok id =>
      -- the id is the default `none` or what the optional reader gave
      have hnull : id ≠ some .null := by
        unfold Decode.withDefault at hid
        split at hid
        · exact optional_anyValue_ne_null hid
        · simp at hid
          simp [← hid]
      have hm : m.id = id := by
        simp only [hr, hid, bind, Except.bind] at h
        split at h <;> try simp at h
        split at h <;> simp at h
        rw [← h]
      unfold readBack
      split
      · next hsome => exact absurd (hm ▸ hsome) hnull
      · rfl

end AppServerMessage

/-- A required member that was read is present and read by its reader. -/
theorem Decode.required_eq_ok {α : Type} {found : List (String × Json)} {name : String}
    {read : Json → Except DecodeError α} {a : α} (h : Decode.required found name read = .ok a) :
    ∃ v, found.lookup name = some v ∧ read v = .ok a := by
  unfold Decode.required at h
  split at h
  · next v hv => exact ⟨v, hv, h⟩
  · simp at h

/-- The message of a read app-server event was read by the message reader. -/
theorem AppServerEvent.message_of_decode {j : Json} {e : AppServerEvent} (h : decode j = .ok e) :
    ∃ j', AppServerMessage.decode j' = .ok e.message := by
  unfold decode at h
  cases hr : Decode.record "struct AppServerEvent" schema j with
  | error err => simp [hr, bind, Except.bind] at h
  | ok found =>
    cases hw : Decode.required found "workspace_id" Decode.string with
    | error err => simp [hr, hw, bind, Except.bind] at h
    | ok workspaceId =>
      cases hm : Decode.required found "message" AppServerMessage.decode with
      | error err => simp [hr, hw, hm, bind, Except.bind] at h
      | ok message =>
        simp only [hr, hw, hm, bind, Except.bind, pure, Except.pure, Except.ok.injEq] at h
        subst h
        obtain ⟨v, -, hv⟩ := Decode.required_eq_ok hm
        exact ⟨v, hv⟩

/-- A dictation event is its own read-back exactly when it is not a level that is not finite. -/
theorem DictationEvent.readBack_eq_ok_iff (e : DictationEvent) :
    e.readBack = .ok e ↔ ∀ x, e = .level x → x.isFinite = true := by
  cases e <;> simp [DictationEvent.readBack]

namespace Payload

/-- A payload read on a channel belongs to that channel. -/
theorem channel_of_decode {c : Channel} {v : Json} {p : Payload} (h : decode c v = .ok p) :
    p.channel = c := by
  cases c <;> simp only [decode, Functor.map, Except.map] at h <;> (try split at h) <;>
    simp only [reduceCtorEq, Except.ok.injEq] at h <;> subst h <;> rfl

/-- An app-server payload was read by the event reader. -/
theorem appServer_of_decode {v : Json} {e : AppServerEvent}
    (h : decode .appServerEvent v = .ok (.appServer e)) : AppServerEvent.decode v = .ok e := by
  simp only [decode, Functor.map, Except.map] at h
  split at h
  · simp at h
  · next hd => simp_all

end Payload

/-! ## The listener's side -/

/-- A bridge handler reads nothing of an envelope on its channel but what the channel's reader makes
of the payload. -/
theorem World.unwrap_eq_of_decode_eq {w : World} {c : Channel} {b : BridgeRef} {sink : Sink}
    {e : Envelope} {v : Json} (hdecode : Payload.decode c e.payload = Payload.decode c v) :
    w.unwrap c b sink e = w.unwrap c b sink { e with payload := v } := by
  simp only [unwrap, hdecode]

/-! ## Writing a read payload again -/

namespace Payload

/-- Over every JSON value a channel reads, the payload written again reads back as itself exactly
when it is not a level that is not finite; such a level is written as `null` and refused where a
single was expected; and when it reads back, every bridge handler on the channel does the same with
the envelope re-emitted as with the received one. -/
theorem reencode_reads_back {c : Channel} {v : Json} {p : Payload} (h : decode c v = .ok p) :
    (decode c p.encode = .ok p ↔ ∀ x, p = .dictation (.level x) → x.isFinite = true) ∧
    (∀ x, p = .dictation (.level x) → x.isFinite = false →
      decode c p.encode = .error (.wrongType .null "f32")) ∧
    ((∀ x, p = .dictation (.level x) → x.isFinite = true) →
      ∀ (w : World) b sink (e : Envelope), e.payload = p.encode →
        w.unwrap c b sink e = w.unwrap c b sink { e with payload := v }) := by
  have hchannel := channel_of_decode h
  -- what the written payload reads back as, by the payload's kind
  have hback : decode c p.encode = .ok p ↔ ∀ x, p = .dictation (.level x) → x.isFinite = true := by
    subst hchannel
    cases p with
    | appServer e =>
      obtain ⟨j', hj'⟩ := AppServerEvent.message_of_decode (appServer_of_decode h)
      simp [decode, encode, channel, Functor.map, Except.map, AppServerEvent.decode_encode,
        AppServerMessage.readBack_of_decode hj']
    | dictation e =>
      simp only [decode, encode, channel, DictationEvent.decode_encode, Payload.dictation.injEq]
      rw [← DictationEvent.readBack_eq_ok_iff]
      cases e.readBack <;> simp [Functor.map, Except.map]
    | download s => simp [decode, encode, channel, Functor.map, Except.map, ModelStatus.decode_encode]
    | terminal t =>
      simp [decode, encode, channel, Functor.map, Except.map, TerminalOutput.decode_encode]
    | updaterCheck => simp [decode, channel]
  refine ⟨hback, fun x hp hx => ?_, fun hfinite w b sink e he => ?_⟩
  · subst hp
    subst hchannel
    simp [decode, encode, channel, DictationEvent.decode_encode, DictationEvent.readBack, hx,
      Functor.map, Except.map]
  · apply World.unwrap_eq_of_decode_eq
    rw [he, hback.2 hfinite, h]

/-- A level given as a double reads as the single nearest it. -/
theorem decode_level_float (f : Float) :
    decode .dictationEvent (.obj [("type", .str "level"), ("value", .num (.float f))]) =
      .ok (.dictation (.level (Binary32.ofFloat f))) := rfl

/-- A level of `1e39`: the double nearest it, with bit pattern `0x48078287F49C4A1D`, lies beyond the
single range. -/
def overflowLevel : Json :=
  .obj [("type", .str "level"), ("value", .num (.float (Float.ofBits 0x48078287F49C4A1D)))]

/-- The level `1e39` is read as the infinite single, so it is one of the payloads whose writing is
refused. -/
theorem reencode_reads_back_overflowLevel :
    decode .dictationEvent overflowLevel = .ok (.dictation (.level ⟨0x7F800000⟩)) ∧
    (decode .dictationEvent (Payload.dictation (.level ⟨0x7F800000⟩)).encode =
        .ok (.dictation (.level ⟨0x7F800000⟩)) ↔
      ∀ x, Payload.dictation (.level ⟨0x7F800000⟩) = .dictation (.level x) → x.isFinite = true) ∧
    (∀ x, Payload.dictation (.level ⟨0x7F800000⟩) = .dictation (.level x) → x.isFinite = false →
      decode .dictationEvent (Payload.dictation (.level ⟨0x7F800000⟩)).encode =
        .error (.wrongType .null "f32")) ∧
    ((∀ x, Payload.dictation (.level ⟨0x7F800000⟩) = .dictation (.level x) → x.isFinite = true) →
      ∀ (w : World) b sink (e : Envelope),
        e.payload = (Payload.dictation (.level ⟨0x7F800000⟩)).encode →
        w.unwrap .dictationEvent b sink e =
          w.unwrap .dictationEvent b sink { e with payload := overflowLevel }) :=
  -- the double's exponent puts it past the largest finite single, so it rounds to infinity
  have hinf : Binary32.ofFloat (Float.ofBits 0x48078287F49C4A1D) = ⟨0x7F800000⟩ := by
    rw [Binary32.ofFloat, BinaryShape.ofFloat_ofBits]
    decide
  have h : decode .dictationEvent overflowLevel = .ok (.dictation (.level ⟨0x7F800000⟩)) := by
    rw [overflowLevel, decode_level_float, hinf]
  ⟨h, reencode_reads_back h⟩

end Payload

end ChannelBridge
