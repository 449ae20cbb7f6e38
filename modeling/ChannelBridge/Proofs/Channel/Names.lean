import ChannelBridge.Payload.Basic

/-! # The spellings of a channel agree

A channel is spelled in four places: its wire name, the text it displays, the name the serializer
derives from its variant name, and what the parser and the deserializer accept. The serializer's
name is not written by hand: it is the variant name in kebab case, so that it matches the wire name
is a fact about the five variant names.

* `Channel.serialName_eq_name`: the derived name of every channel is its wire name.
* `Channel.parse_eq_ok_iff`, `Channel.parse_eq_error_iff`: parsing accepts exactly the wire names,
  with no trimming and no case folding, and refuses every other text by naming it.
* `Decode.unitVariant_eq_ok_iff`: a variant without data reads from its name or from a one-member
  object of its name and `null`, and from nothing else.
* `channel_names_agree`: the whole statement.
-/

namespace ChannelBridge

namespace Decode

/-- A named variant is found exactly when the table lists it under the name. -/
theorem variantNamed_eq_ok_iff {α : Type} {vs : List (String × α)} {name : String} {a : α} :
    variantNamed vs name = .ok a ↔ vs.lookup name = some a := by
  unfold variantNamed
  cases vs.lookup name <;> simp

/-- A variant without data reads from its name given as a string, or as a one-member object of its
name and `null`, and from no other value. -/
theorem unitVariant_eq_ok_iff {α : Type} {vs : List (String × α)} {v : Json} {a : α} :
    unitVariant vs v = .ok a ↔
      ∃ name, vs.lookup name = some a ∧ (v = .str name ∨ v = .obj [(name, .null)]) := by
  cases v with
  | str s =>
    rw [unitVariant, variantNamed_eq_ok_iff]
    simp
  | obj members =>
    rcases members with _ | ⟨⟨k, x⟩, _ | ⟨m, rest⟩⟩
    · simp [unitVariant]
    · -- one member: its key names the variant, and its value must be `null`
      cases hk : variantNamed vs k with
      | error e =>
        have hnone : vs.lookup k ≠ some a := fun h => by
          rw [variantNamed_eq_ok_iff.2 h] at hk
          cases hk
        simp only [unitVariant, hk]
        simp only [bind, Except.bind, reduceCtorEq, false_iff, not_exists, not_and]
        rintro name hname (h | h)
        · cases h
        · simp only [Json.obj.injEq, List.cons.injEq, Prod.mk.injEq, and_true] at h
          obtain ⟨rfl, -⟩ := h
          exact hnone hname
      | ok b =>
        have hb := variantNamed_eq_ok_iff.1 hk
        cases x <;> simp [unitVariant, hk, bind, Except.bind, pure, Except.pure, hb]
    · simp [unitVariant]
  | _ => simp [unitVariant]

end Decode

namespace Channel

/-- The serializer's name of every channel, its variant name in kebab case, is its wire name. -/
theorem serialName_eq_name (c : Channel) : c.serialName = c.name := by
  cases c <;> decide

/-- A channel displays as its wire name. -/
theorem toString_eq_name (c : Channel) : toString c = c.name := rfl

/-- The only channel with a given wire name is found by it. -/
theorem ofName?_eq_some_iff {s : String} {c : Channel} : ofName? s = some c ↔ c.name = s := by
  constructor
  · intro h
    simpa using List.find?_some h
  · rintro rfl
    -- some channel is found, and it has the same wire name, so it is `c`
    obtain ⟨c', hc'⟩ := Option.isSome_iff_exists.1
      (List.find?_isSome.2 ⟨c, mem_all c, by simp⟩ : (ofName? c.name).isSome)
    have hname : c'.name = c.name := by simpa using List.find?_some hc'
    unfold ofName?
    rw [hc', name_injective hname]

theorem ofName?_eq_none_iff {s : String} : ofName? s = none ↔ ∀ c : Channel, c.name ≠ s := by
  simp [ofName?, List.find?_eq_none, mem_all]

/-- Parsing accepts exactly the wire name of a channel. -/
theorem parse_eq_ok_iff {s : String} {c : Channel} : parse s = .ok c ↔ c.name = s := by
  unfold parse
  cases h : ofName? s with
  | none =>
    rw [ofName?_eq_none_iff] at h
    simpa using h c
  | some c' =>
    rw [ofName?_eq_some_iff] at h
    simp only [Except.ok.injEq]
    exact ⟨fun e => e ▸ h, fun e => name_injective (h.trans e.symm)⟩

/-- Parsing refuses exactly the texts that are no wire name, and names the text it refused. -/
theorem parse_eq_error_iff {s : String} {e : UnknownChannel} :
    parse s = .error e ↔ (∀ c : Channel, c.name ≠ s) ∧ e = ⟨s⟩ := by
  unfold parse
  cases h : ofName? s with
  | none =>
    rw [ofName?_eq_none_iff] at h
    simp only [Except.error.injEq]
    exact ⟨fun e => ⟨h, e.symm⟩, fun ⟨_, e⟩ => e.symm⟩
  | some c =>
    rw [ofName?_eq_some_iff] at h
    simp only [reduceCtorEq, false_iff, not_and]
    exact fun hall => absurd h (hall c)

/-- A name looked up among the channels keyed by their serialized names finds a channel with that
wire name. -/
theorem name_of_lookup_serialNames {s : String} {c : Channel}
    (h : (all.map fun c => (c.serialName, c)).lookup s = some c) : c.name = s := by
  obtain ⟨l₁, l₂, hsplit, -⟩ := List.lookup_eq_some_iff.1 h
  have hmem : (s, c) ∈ all.map fun c => (c.serialName, c) := by
    rw [hsplit]
    simp
  obtain ⟨c', -, he⟩ := List.mem_map.1 hmem
  simp only [Prod.mk.injEq] at he
  obtain ⟨hs, rfl⟩ := he
  rw [← hs, serialName_eq_name]

/-- Among the channels keyed by their serialized names, a name finds the channel with that wire
name. -/
theorem lookup_serialNames_eq_some_iff {s : String} {c : Channel} :
    (all.map fun c => (c.serialName, c)).lookup s = some c ↔ c.name = s := by
  refine ⟨name_of_lookup_serialNames, ?_⟩
  rintro rfl
  have hsome : ((all.map fun c => (c.serialName, c)).lookup c.name).isSome := by
    rw [List.lookup_isSome_iff]
    exact ⟨(c.serialName, c), List.mem_map.2 ⟨c, mem_all c, rfl⟩, by simp [serialName_eq_name]⟩
  -- the channel found has the wire name looked up, so it is `c`
  obtain ⟨c', hc'⟩ := Option.isSome_iff_exists.1 hsome
  rw [hc', name_injective (name_of_lookup_serialNames hc')]

/-- The deserializer reads a channel from exactly its wire name, as a string or as a one-member
object of the name and `null`. -/
theorem decode_eq_ok_iff {v : Json} {c : Channel} :
    Channel.decode v = .ok c ↔ v = .str c.name ∨ v = .obj [(c.name, .null)] := by
  rw [Channel.decode, Decode.unitVariant_eq_ok_iff]
  constructor
  · rintro ⟨name, hname, hv⟩
    rw [lookup_serialNames_eq_some_iff] at hname
    rwa [hname]
  · intro hv
    exact ⟨c.name, lookup_serialNames_eq_some_iff.2 rfl, hv⟩

end Channel

/-- The channel-name parsers and printers agree. Parsing a text gives the channel whose wire name
it is exactly, and every other text is refused as an unknown channel that names it. A channel's wire
name, its displayed text and its serialized form are one string. The deserializer reads a channel
from exactly its wire name, given as a string or as a one-member object of the name and `null`; so
on strings it accepts what parsing accepts. -/
theorem channel_names_agree :
    (∀ (s : String) (c : Channel), Channel.parse s = .ok c ↔ c.name = s) ∧
    (∀ (s : String) (e : UnknownChannel),
      Channel.parse s = .error e ↔ (∀ c : Channel, c.name ≠ s) ∧ e = ⟨s⟩) ∧
    (∀ c : Channel, toString c = c.name ∧ c.encode = .str c.name) ∧
    (∀ (v : Json) (c : Channel),
      Channel.decode v = .ok c ↔ v = .str c.name ∨ v = .obj [(c.name, .null)]) ∧
    (∀ (s : String) (c : Channel), Channel.decode (.str s) = .ok c ↔ Channel.parse s = .ok c) := by
  refine ⟨fun s c => Channel.parse_eq_ok_iff, fun s e => Channel.parse_eq_error_iff,
    fun c => ⟨Channel.toString_eq_name c, by rw [Channel.encode, Channel.serialName_eq_name]⟩,
    fun v c => Channel.decode_eq_ok_iff, fun s c => ?_⟩
  rw [Channel.decode_eq_ok_iff, Channel.parse_eq_ok_iff]
  simp [eq_comm]

end ChannelBridge
