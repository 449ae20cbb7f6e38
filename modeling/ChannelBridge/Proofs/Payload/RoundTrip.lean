import ChannelBridge.Proofs.Payload.Widening
import Mathlib.Control.Monad.Basic

/-! # Reading back a written payload

A payload is written as a JSON value (`Payload.encode`) and read back by the reader of its channel
(`Payload.decode`). The trip gives the payload back, with two exceptions that the wire format
forces: an app-server request id of `null` reads as no id at all, and a level that is not a finite
single is written as `null`, which the single reader refuses. `Payload.readBack` says exactly what
comes back, and `Payload.decode_encode_eq_readBack` proves that the trip computes it.

The proof goes by layers. An object built by `Json.object` is looked up as its member list read
backwards (`Json.lookup_of_object`); a record whose members all check reads back its members
(`Decode.record_object_bind`); each schema then reads its own writing, a level through the
widening of `Binary32.ofFloat_toFloat`.

* `Payload.decode_encode_eq_readBack`: the trip through the wire format, on every channel.
-/

namespace ChannelBridge

/-! ## Objects built from member lists -/

namespace Json

/-- Looking a key up in a member list, with the key comparison as a proposition. -/
theorem lookup_cons_eq_ite (k key : String) (v : Json) (l : List (String × Json)) :
    ((k, v) :: l).lookup key = if key = k then some v else l.lookup key := by
  simp only [List.lookup_cons]
  by_cases hkey : key = k
  · simp [hkey]
  · rw [if_neg hkey, beq_false_of_ne hkey]

/-- Inserting a member answers for its own key and leaves every other lookup as it was. -/
theorem lookup_insertMember (k : String) (v : Json) (l : List (String × Json)) (key : String) :
    (insertMember k v l).lookup key = if key = k then some v else l.lookup key := by
  induction l with
  | nil => simp [insertMember, lookup_cons_eq_ite]
  | cons kv rest ih =>
    obtain ⟨k', v'⟩ := kv
    unfold insertMember
    -- the new member goes before, over, or after the head
    by_cases hlt : k < k'
    · simp [hlt, lookup_cons_eq_ite]
    by_cases heq : k = k'
    · subst heq
      by_cases hkey : key = k <;> simp [hkey, lookup_cons_eq_ite]
    · by_cases hkey : key = k'
      · subst hkey
        simp [hlt, heq, Ne.symm heq]
      · simp [hlt, heq, hkey, ih, lookup_cons_eq_ite]

/-- An inserted member is the new one or an old one. -/
theorem mem_insertMember {k : String} {v : Json} {l : List (String × Json)} {kv : String × Json}
    (h : kv ∈ insertMember k v l) : kv = (k, v) ∨ kv ∈ l := by
  induction l with
  | nil => simpa [insertMember] using h
  | cons kv' rest ih =>
    obtain ⟨k', v'⟩ := kv'
    unfold insertMember at h
    by_cases hlt : k < k'
    · simpa [hlt] using h
    by_cases heq : k = k'
    · -- the new member replaces the head
      subst heq
      simp only [hlt, if_false, if_true, List.mem_cons] at h ⊢
      rcases h with h | h
      · exact .inl h
      · exact .inr (.inr h)
    · simp only [hlt, heq, if_false, List.mem_cons] at h ⊢
      rcases h with h | h
      · exact .inr (.inl h)
      · rcases ih h with h | h
        · exact .inl h
        · exact .inr (.inr h)

/-- Folding members in: a later member wins, and the accumulator answers for keys not given. -/
theorem lookup_foldl_insertMember (ms acc : List (String × Json)) (key : String) :
    (ms.foldl (fun acc (k, v) => insertMember k v acc) acc).lookup key =
      (ms.reverse.lookup key).or (acc.lookup key) := by
  induction ms generalizing acc with
  | nil => simp
  | cons kv rest ih =>
    obtain ⟨k, v⟩ := kv
    simp only [List.foldl_cons, ih, lookup_insertMember, List.reverse_cons, List.lookup_append,
      Option.or_assoc]
    by_cases hkey : key = k <;> simp [hkey, lookup_cons_eq_ite]

theorem mem_foldl_insertMember {ms acc : List (String × Json)} {kv : String × Json}
    (h : kv ∈ ms.foldl (fun acc (k, v) => insertMember k v acc) acc) :
    kv ∈ ms ∨ kv ∈ acc := by
  induction ms generalizing acc with
  | nil => exact .inr h
  | cons kv' rest ih =>
    rcases ih h with h | h
    · exact .inl (List.mem_cons_of_mem _ h)
    · rcases mem_insertMember h with h | h
      · exact .inl (h ▸ List.mem_cons_self)
      · exact .inr h

variable {ms members : List (String × Json)}

/-- A key of an object is looked up in its member list read backwards: a later member wins. -/
theorem lookup_of_object (h : object ms = .obj members) (key : String) :
    members.lookup key = ms.reverse.lookup key := by
  simp only [object, obj.injEq] at h
  rw [← h, lookup_foldl_insertMember]
  simp

/-- Every member of an object is one of the members it was built from. -/
theorem mem_of_object (h : object ms = .obj members) {kv : String × Json} (hkv : kv ∈ members) :
    kv ∈ ms := by
  simp only [object, obj.injEq] at h
  rw [← h] at hkv
  simpa using mem_foldl_insertMember hkv

/-- Dropping members whose key is not `key` leaves the lookup of `key` as it was. -/
theorem lookup_filter {p : String × Json → Bool} {key : String} (hp : ∀ v, p (key, v) = true)
    (members : List (String × Json)) : (members.filter p).lookup key = members.lookup key := by
  induction members with
  | nil => rfl
  | cons kv rest ih =>
    obtain ⟨k, v⟩ := kv
    by_cases hk : key = k
    · subst hk
      simp [hp]
    · by_cases hpk : p (k, v) = true <;> simp [hpk, lookup_cons_eq_ite, hk, ih]

end Json

/-! ## Records read from objects -/

namespace Decode

variable {schema : List Member}

/-- Members that every schema member of their name accepts pass the known-member check. -/
theorem checkKnown_ok {members : List (String × Json)}
    (h : ∀ kv ∈ members, ∀ m ∈ schema, m.name = kv.1 → m.check kv.2 = .ok ()) :
    checkKnown schema members = .ok () := by
  induction members with
  | nil => rfl
  | cons kv rest ih =>
    obtain ⟨k, v⟩ := kv
    have hrest := ih fun kv hkv => h kv (List.mem_cons_of_mem _ hkv)
    unfold checkKnown
    split
    · next m hfind =>
      have hname : m.name = k := by simpa using List.find?_some hfind
      rw [h (k, v) List.mem_cons_self m (List.mem_of_find?_eq_some hfind) hname]
      exact hrest
    · exact hrest

/-- Every required member present: the presence check passes. -/
theorem checkPresent_ok {present : List (String × Json)}
    (h : ∀ m ∈ schema, m.optional = false → (present.lookup m.name).isSome) :
    checkPresent present schema = .ok () := by
  induction schema with
  | nil => rfl
  | cons m rest ih =>
    unfold checkPresent
    rw [if_pos]
    · exact ih fun m' hm' => h m' (List.mem_cons_of_mem _ hm')
    · cases hopt : m.optional
      · simp [h m List.mem_cons_self hopt]
      · simp

/-- An object whose members all check and that has every required member reads as its known
members. -/
theorem recordOfObject_ok {members : List (String × Json)}
    (hcheck : ∀ kv ∈ members, ∀ m ∈ schema, m.name = kv.1 → m.check kv.2 = .ok ())
    (hpresent : ∀ m ∈ schema, m.optional = false → (members.lookup m.name).isSome) :
    recordOfObject schema members =
      .ok (members.filter fun (k, _) => schema.any fun m => m.name == k) := by
  simp only [recordOfObject, checkKnown_ok hcheck, checkPresent_ok hpresent]
  rfl

/-- A record written with `Json.object` reads back: whatever follows the read sees each member the
schema knows with the value written last under its name. -/
theorem record_object_bind {β : Type} (what : String) {ms : List (String × Json)}
    (hcheck : ∀ kv ∈ ms, ∀ m ∈ schema, m.name = kv.1 → m.check kv.2 = .ok ())
    (hpresent : ∀ m ∈ schema, m.optional = false → (ms.reverse.lookup m.name).isSome)
    {k : List (String × Json) → Except DecodeError β} {r : Except DecodeError β}
    (hk : ∀ found, (∀ name, (schema.any fun m => m.name == name) = true →
      found.lookup name = ms.reverse.lookup name) → k found = r) :
    (record what schema (Json.object ms) >>= k) = r := by
  obtain ⟨members, hobj⟩ : ∃ members, Json.object ms = .obj members := ⟨_, rfl⟩
  have hread : record what schema (Json.object ms) =
      .ok (members.filter fun (k, _) => schema.any fun m => m.name == k) := by
    rw [hobj]
    exact recordOfObject_ok (fun kv hkv => hcheck kv (Json.mem_of_object hobj hkv))
      (fun m hm hopt => Json.lookup_of_object hobj m.name ▸ hpresent m hm hopt)
  rw [hread]
  refine hk _ fun name hname => ?_
  rw [Json.lookup_filter (fun _ => hname), Json.lookup_of_object hobj]

end Decode


/-! ## What a written payload reads back as -/

/-- The message a written message reads back as: an id of `null` reads as no id. -/
def AppServerMessage.readBack (m : AppServerMessage) : AppServerMessage :=
  match m.id with
  | some .null => { m with id := none }
  | _ => m

/-- What a written dictation event reads back as: itself, unless it is a level that is not
finite, which is written as `null` and refused by the single reader. -/
def DictationEvent.readBack : DictationEvent → Except DecodeError DictationEvent
  | .level v => if v.isFinite then .ok (.level v) else .error (.wrongType .null "f32")
  | e => .ok e

/-- What a written payload reads back as on its own channel. -/
def Payload.readBack : Payload → Except DecodeError Payload
  | .appServer e => .ok (.appServer { e with message := e.message.readBack })
  | .dictation e => .dictation <$> e.readBack
  | p => .ok p

/-! ## Each schema reads its own writing -/

/-- Reading on after a read that succeeded. -/
@[simp] theorem Decode.ok_bind {α β : Type} (a : α) (f : α → Except DecodeError β) :
    (Except.ok a >>= f) = f a := rfl

@[simp] theorem Decode.pure_eq_ok {α : Type} (a : α) :
    (pure a : Except DecodeError α) = .ok a := rfl

theorem TerminalOutput.decode_encode (t : TerminalOutput) :
    TerminalOutput.decode t.encode = .ok t := by
  refine Decode.record_object_bind _ ?_ ?_ fun found hfound => ?_
  · simp [TerminalOutput.schema, Decode.Member.of, Decode.string, Except.map]
  · simp [TerminalOutput.schema, Decode.Member.of]
  · simp [Decode.required, hfound, TerminalOutput.schema, Decode.Member.of, Decode.string,
      Json.lookup_cons_eq_ite]

namespace AppServerMessage

theorem optional_anyValue (v : Json) :
    Decode.optional anyValue v = .ok (match v with | .null => none | v => some v) := by
  cases v <;> rfl

theorem decode_encode (m : AppServerMessage) : decode m.encode = .ok m.readBack := by
  obtain ⟨id, method, params⟩ := m
  cases id with
  | none =>
    -- an absent id is not written, and reads as absent
    refine Decode.record_object_bind _ ?_ ?_ fun found hfound => ?_
    · simp [schema, Decode.Member.of, Decode.string, Except.map, anyValue]
    · simp [schema, Decode.Member.of]
    · simp [Decode.required, Decode.withDefault, hfound, schema, Decode.Member.of, Decode.string,
        Json.lookup_cons_eq_ite, anyValue, readBack]
  | some v =>
    -- a written id reads back, unless it is `null`
    refine Decode.record_object_bind _ ?_ ?_ fun found hfound => ?_
    · simp [schema, Decode.Member.of, Decode.string, Except.map, anyValue, optional_anyValue]
    · simp [schema, Decode.Member.of]
    · simp [Decode.required, Decode.withDefault, hfound, schema, Decode.Member.of, Decode.string,
        Json.lookup_cons_eq_ite, anyValue, optional_anyValue]
      cases v <;> rfl

end AppServerMessage

theorem AppServerEvent.decode_encode (e : AppServerEvent) :
    AppServerEvent.decode e.encode = .ok { e with message := e.message.readBack } := by
  have hmsg := AppServerMessage.decode_encode e.message
  refine Decode.record_object_bind _ ?_ ?_ fun found hfound => ?_
  · simp [AppServerEvent.schema, Decode.Member.of, Decode.string, Except.map, hmsg]
  · simp [AppServerEvent.schema, Decode.Member.of]
  · simp [Decode.required, hfound, AppServerEvent.schema, Decode.Member.of, Decode.string,
      Json.lookup_cons_eq_ite, hmsg]

theorem DownloadProgress.decode_encode (p : DownloadProgress) :
    DownloadProgress.decode p.encode = .ok p := by
  obtain ⟨total, done⟩ := p
  -- an unknown total is not written, and reads as unknown
  cases total <;>
    exact Decode.record_object_bind _
      (by simp [DownloadProgress.schema, Decode.Member.of, Decode.u64, Decode.optional, Except.map,
        Json.ofNat])
      (by simp [DownloadProgress.schema, Decode.Member.of])
      fun found hfound => by
        simp [DownloadProgress.schema, Decode.Member.of, Decode.u64, Decode.optional,
          Decode.required, Decode.withDefault, hfound, Json.lookup_cons_eq_ite, Json.ofNat]

/-- Written progress is an object, so the optional reader reads it as present. -/
theorem DownloadProgress.optional_decode_encode (p : DownloadProgress) :
    Decode.optional DownloadProgress.decode p.encode = .ok (some p) := by
  change some <$> DownloadProgress.decode p.encode = _
  rw [DownloadProgress.decode_encode]
  rfl

theorem Decode.optional_str {α : Type} (read : Json → Except DecodeError α) (s : String) :
    Decode.optional read (.str s) = some <$> read (.str s) := rfl

theorem ModelState.unitVariant_name (s : ModelState) :
    Decode.unitVariant ModelState.names (.str s.name) = .ok s := by
  cases s <;> rfl

theorem ModelStatus.decode_encode (s : ModelStatus) : ModelStatus.decode s.encode = .ok s := by
  obtain ⟨state, modelId, progress, error⟩ := s
  have hstate := ModelState.unitVariant_name state
  -- absent progress and error are not written, and read as absent
  cases progress <;> cases error <;>
    exact Decode.record_object_bind _
      (by simp [ModelStatus.schema, Decode.Member.of, Decode.string, Decode.optional_str,
        Except.map, hstate, DownloadProgress.optional_decode_encode])
      (by simp [ModelStatus.schema, Decode.Member.of])
      fun found hfound => by
        simp [ModelStatus.schema, Decode.Member.of, Decode.string, Decode.optional_str,
          Decode.required, Decode.withDefault, hfound, Json.lookup_cons_eq_ite, hstate,
          DownloadProgress.optional_decode_encode]

theorem SessionState.unitVariant_name (s : SessionState) :
    Decode.unitVariant SessionState.names (.str s.name) = .ok s := by
  cases s <;> rfl

namespace DictationEvent

theorem tag_name (k : DictationKind) : tag (.str k.name) = .ok k := by
  cases k <;> rfl

/-- No member of a kind is called like the tag. -/
theorem name_ne_type {k : DictationKind} {m : Decode.Member} (hm : m ∈ k.schema) :
    m.name ≠ "type" := by
  cases k <;> simp_all [DictationKind.schema, Decode.Member.of]

/-- A tagged object reads its tag, then the members of that kind among the others. -/
theorem decode_tagged {k : DictationKind} {ms : List (String × Json)}
    (hms : ∀ kv ∈ ms, kv.1 ≠ "type")
    (hcheck : ∀ kv ∈ ms, ∀ m ∈ k.schema, m.name = kv.1 → m.check kv.2 = .ok ())
    (hpresent : ∀ m ∈ k.schema, m.optional = false → (ms.reverse.lookup m.name).isSome)
    {r : Except DecodeError DictationEvent}
    (hk : ∀ found, (∀ name, (k.schema.any fun m => m.name == name) = true →
      found.lookup name = ms.reverse.lookup name) → build k found = r) :
    decode (Json.object (("type", .str k.name) :: ms)) = r := by
  obtain ⟨members, hobj⟩ :
    ∃ members, Json.object (("type", .str k.name) :: ms) = .obj members := ⟨_, rfl⟩
  have hnone : ms.reverse.lookup "type" = none := by
    rw [List.lookup_eq_none_iff]
    intro kv hkv
    simpa [bne_iff_ne, ne_comm] using hms kv (List.mem_reverse.1 hkv)
  have htype : members.lookup "type" = some (.str k.name) := by
    rw [Json.lookup_of_object hobj, List.reverse_cons, List.lookup_append, hnone]
    simp
  -- without the tag, the members are those of `ms`, looked up as in `ms`
  have hmem : ∀ kv ∈ members.filter (fun (key, _) => key != "type"), kv ∈ ms := by
    intro kv hkv
    rw [List.mem_filter] at hkv
    rcases List.mem_cons.1 (Json.mem_of_object hobj hkv.1) with rfl | h
    · simp at hkv
    · exact h
  have hlookup : ∀ name, name ≠ "type" →
      (members.filter fun (key, _) => key != "type").lookup name = ms.reverse.lookup name := by
    intro name hname
    rw [Json.lookup_filter (by simp [hname]), Json.lookup_of_object hobj, List.reverse_cons,
      List.lookup_append]
    cases ms.reverse.lookup name <;> simp [Json.lookup_cons_eq_ite, hname]
  rw [hobj]
  simp only [decode, htype, tag_name, Decode.ok_bind]
  rw [Decode.recordOfObject_ok (fun kv hkv => hcheck kv (hmem kv hkv))
    (fun m hm hopt => hlookup m.name (name_ne_type hm) ▸ hpresent m hm hopt)]
  refine hk _ fun name hname => ?_
  obtain ⟨m, hm, hmname⟩ := List.any_eq_true.1 hname
  have hne : name ≠ "type" := (eq_of_beq hmname) ▸ name_ne_type hm
  rw [Json.lookup_filter (fun _ => hname), hlookup name hne]

/-- A written event reads back, except a level that is not finite. -/
theorem decode_encode (e : DictationEvent) : decode e.encode = e.readBack := by
  cases e
  case level v =>
    change decode (Json.object [("type", .str DictationKind.level.name),
      ("value", Json.ofFloat v.toFloat)]) = _
    by_cases hv : v.isFinite = true
    · -- a finite level is written as the double of the same value, which rounds back to it
      have hjson : Json.ofFloat v.toFloat = .num (.float v.toFloat) := by
        simp [Json.ofFloat, Binary32.isFinite_toFloat, hv]
      rw [hjson]
      exact decode_tagged (by simp)
        (by simp [DictationKind.schema, Decode.Member.of, Decode.single, Except.map])
        (by simp [DictationKind.schema, Decode.Member.of])
        fun found hfound => by
          simp [build, Decode.required, hfound, DictationKind.schema, Decode.Member.of,
            Decode.single, Binary32.ofFloat_toFloat v hv, readBack, hv]
    · -- any other is written as `null`, which is not a number
      have hjson : Json.ofFloat v.toFloat = .null := by
        simp [Json.ofFloat, Binary32.isFinite_toFloat, hv]
      rw [hjson]
      simp only [readBack, hv]
      rfl
  all_goals
    exact decode_tagged (by simp)
      (by simp [kind, DictationKind.schema, Decode.Member.of, Decode.string, Except.map,
        SessionState.unitVariant_name])
      (by simp [kind, DictationKind.schema, Decode.Member.of])
      fun found hfound => by
        simp [kind, build, Decode.required, hfound, DictationKind.schema, Decode.Member.of,
          Decode.string, SessionState.unitVariant_name, readBack]

end DictationEvent

/-! ## Every channel -/

/-- Reading a written payload back on its channel gives what `Payload.readBack` says: the payload
itself, but for an app-server id of `null`, which comes back absent, and a level that is not
finite, which is refused as `null` where a number was expected. -/
theorem Payload.decode_encode_eq_readBack (p : Payload) :
    Payload.decode p.channel p.encode = p.readBack := by
  cases p with
  | appServer e => simp [decode, encode, channel, readBack, AppServerEvent.decode_encode]
  | download s => simp [decode, encode, channel, readBack, ModelStatus.decode_encode]
  | dictation e => simp [decode, encode, channel, readBack, DictationEvent.decode_encode]
  | terminal t => simp [decode, encode, channel, readBack, TerminalOutput.decode_encode]
  | updaterCheck => rfl

end ChannelBridge
