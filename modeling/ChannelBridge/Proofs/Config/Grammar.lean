import ChannelBridge.Config
import Mathlib.Data.Nat.Digits.Defs
import Mathlib.Data.List.DropRight
import Mathlib.Data.List.Induction

/-! # The grammar of the bridge configuration

The configuration reads three variables. A variable counts as set when it is there and its value,
trimmed of blanks, is not empty; the trimmed value is what is read. This file says, without the
reader, which settings are accepted and what they give:

* the capacity is a decimal numeral (an optional `+`, then one or more ASCII digits) for a value
  from `1` to `2^64 - 1` (`Numeral`, `CapacityAccepts`); unset, it is 256;
* the level is taken as it is; unset, it is `info`;
* the format is `json` or `pretty` once ASCII letters are lowered (`FormatAccepts`); unset, it is
  the build's default.

`ofLookup_eq_ok_iff` and `ofLookup_eq_error_iff` give the reader exactly: a configuration is read
exactly when both settings are accepted, and a refusal names the capacity whenever that is wrong,
the format otherwise. `ofLookup_accepts_grammar` puts them together.
-/

namespace ChannelBridge

namespace Text

/-- Trimming twice trims no more: what the first trim leaves starts and ends with characters that
are not blank. -/
theorem trimBlank_trimBlank (s : String) : trimBlank (trimBlank s) = trimBlank s := by
  have htrim : ∀ t, trimBlank t = String.ofList ((t.toList.dropWhile isBlank).rdropWhile isBlank) :=
    fun _ => rfl
  rw [htrim, htrim, String.toList_ofList]
  congr 1
  -- the first trim leaves a prefix of what its first drop leaves, whose head is not blank
  have hhead := List.head_dropWhile_not isBlank (l := s.toList)
  generalize s.toList.dropWhile isBlank = F at hhead ⊢
  obtain ⟨u, hu⟩ := List.rdropWhile_prefix (p := isBlank) (l := F)
  have hkeep : (F.rdropWhile isBlank).dropWhile isBlank = F.rdropWhile isBlank := by
    rw [List.dropWhile_eq_self_iff]
    intro hlen
    have hT : F.rdropWhile isBlank ≠ [] := List.ne_nil_of_length_pos hlen
    have hne : F ≠ [] := by
      intro h
      simp [h] at hT
    have hfirst : F.head hne = (F.rdropWhile isBlank).head hT := by
      clear hhead
      generalize F.rdropWhile isBlank = T at hu hT ⊢
      subst hu
      exact List.head_append_of_ne_nil hT
    rw [← List.head_eq_getElem hT, ← hfirst, hhead hne]
    decide
  rw [hkeep, List.rdropWhile_idempotent]

end Text

namespace LogFormat

/-- A name is a format exactly when, trimmed, its lowered letters spell the format's name. -/
theorem parse_eq_some_iff (s : String) (f : LogFormat) :
    parse s = some f ↔ (Text.trimBlank s).toLower = f.name := by
  unfold parse
  cases f <;> by_cases hj : (Text.trimBlank s).toLower = "json" <;>
    by_cases hp : (Text.trimBlank s).toLower = "pretty" <;> simp_all [name]

end LogFormat

namespace BridgeConfig

/-! ## The settings, said without the reader -/

/-- `s` is a decimal numeral for `n`: an optional `+`, then one or more ASCII digits whose value,
most significant first, is `n`. -/
def Numeral (s : String) (n : Nat) : Prop :=
  ∃ ds : List Char, (s.toList = ds ∨ s.toList = '+' :: ds) ∧ ds ≠ [] ∧
    (∀ d ∈ ds, d.isDigit = true) ∧ n = Nat.ofDigits 10 (ds.reverse.map fun d => d.toNat - '0'.toNat)

/-- An accepted capacity setting and the capacity it gives: unset, the default of 256; set, a
numeral for a value from `1` to `2^64 - 1`. -/
def CapacityAccepts : Option String → Nat → Prop
  | none, n => n = 256
  | some t, n => Numeral t n ∧ 0 < n ∧ n < 2 ^ 64

/-- An accepted format setting and the format it gives: unset, the build's default; set, a text
whose lowered ASCII letters spell `json` or `pretty`. -/
def FormatAccepts : Option String → LogFormat → Prop
  | none, f => f = LogFormat.default
  | some t, f => t.toLower = f.name

/-! ## Digits -/

/-- The digit value of a string of digits is its value as a numeral, most significant first. -/
theorem digitValue_eq_ofDigits (ds : List Char) :
    digitValue ds = Nat.ofDigits 10 (ds.reverse.map fun d => d.toNat - '0'.toNat) := by
  induction ds using List.reverseRecOn with
  | nil => rfl
  | append_singleton ds d ih =>
    rw [digitValue, List.foldl_append, ← digitValue, ih]
    simp [Nat.ofDigits_cons]
    ring

/-- The digits after the sign, when the text has `+` in front of them or starts with them. -/
def SignedAs (s : String) (ds : List Char) : Prop :=
  s.toList = '+' :: ds ∨ (s.toList = ds ∧ ds.head? ≠ some '+')

/-- Every text splits into a sign and the rest. -/
theorem exists_signedAs (s : String) : ∃ ds, SignedAs s ds := by
  cases hs : s.toList with
  | nil => exact ⟨[], .inr ⟨hs, by simp⟩⟩
  | cons c r =>
    by_cases hc : c = '+'
    · exact ⟨r, .inl (hc ▸ hs)⟩
    · exact ⟨c :: r, .inr ⟨hs, by simpa using hc⟩⟩

/-- The unsigned reader reads the digits after the sign. -/
theorem parseUnsigned_eq_of_signedAs {s : String} {ds : List Char} (hs : SignedAs s ds) :
    parseUnsigned s = if (ds.isEmpty || !ds.all Char.isDigit) = true then none
      else if digitValue ds < 2 ^ 64 then some (digitValue ds) else none := by
  unfold parseUnsigned
  rcases hs with h | ⟨h, hhead⟩
  · simp only [h]
  · simp only [h]
    split
    · simp_all
    · rfl

/-- A numeral's digits are the digits after the sign: a digit is never `+`. -/
theorem numeral_iff {s : String} {ds : List Char} (hs : SignedAs s ds) (n : Nat) :
    Numeral s n ↔ ds ≠ [] ∧ (∀ d ∈ ds, d.isDigit = true) ∧
      n = Nat.ofDigits 10 (ds.reverse.map fun d => d.toNat - '0'.toNat) := by
  have hplus : ('+').isDigit = false := by decide
  constructor
  · rintro ⟨ds', hs', hne, hdig, hn⟩
    -- the numeral's digits and the digits after the sign are one list
    have heq : ds' = ds := by
      rcases hs with h | ⟨h, hhead⟩ <;> rcases hs' with h' | h'
      · rw [h] at h'
        rw [← h'] at hdig
        simp [hplus] at hdig
      · rw [h] at h'
        exact (List.cons.inj h').2.symm
      · rw [h] at h'
        exact h'.symm
      · rw [h] at h'
        simp [h'] at hhead
    subst heq
    exact ⟨hne, hdig, hn⟩
  · rintro ⟨hne, hdig, hn⟩
    rcases hs with h | ⟨h, -⟩
    · exact ⟨ds, .inr h, hne, hdig, hn⟩
    · exact ⟨ds, .inl h, hne, hdig, hn⟩

/-- The unsigned reader accepts exactly the numerals of values below `2^64`. -/
theorem parseUnsigned_eq_some_iff (s : String) (n : Nat) :
    parseUnsigned s = some n ↔ Numeral s n ∧ n < 2 ^ 64 := by
  obtain ⟨ds, hs⟩ := exists_signedAs s
  rw [parseUnsigned_eq_of_signedAs hs, numeral_iff hs, ← digitValue_eq_ofDigits]
  by_cases hbad : (ds.isEmpty || !ds.all Char.isDigit) = true
  · -- no digits, or a character that is not one
    rw [if_pos hbad]
    simp only [Bool.or_eq_true, List.isEmpty_iff, Bool.not_eq_true', List.all_eq_false] at hbad
    simp only [reduceCtorEq, false_iff, not_and]
    rintro ⟨hne, hdig, -⟩ -
    rcases hbad with h | ⟨d, hd, hnd⟩
    · exact hne h
    · simp [hdig d hd] at hnd
  · rw [if_neg hbad]
    simp only [Bool.or_eq_true, List.isEmpty_iff, Bool.not_eq_true', List.all_eq_false, not_or,
      not_exists, not_and, not_not] at hbad
    by_cases hlt : digitValue ds < 2 ^ 64
    · rw [if_pos hlt]
      simp only [Option.some.injEq]
      exact ⟨fun h => ⟨⟨hbad.1, hbad.2, h.symm⟩, h ▸ hlt⟩, fun h => h.1.2.2.symm⟩
    · rw [if_neg hlt]
      simp only [reduceCtorEq, false_iff, not_and]
      exact fun ⟨_, _, hn⟩ hn' => hlt (hn ▸ hn')

/-- A set capacity is accepted exactly when the unsigned reader takes it and it is positive. -/
theorem capacityAccepts_some_iff (t : String) (n : Nat) :
    CapacityAccepts (some t) n ↔ parseUnsigned t = some n ∧ 0 < n := by
  rw [parseUnsigned_eq_some_iff]
  exact ⟨fun ⟨hnum, hpos, hlt⟩ => ⟨⟨hnum, hlt⟩, hpos⟩, fun ⟨⟨hnum, hlt⟩, hpos⟩ => ⟨hnum, hpos, hlt⟩⟩

/-- A capacity is read exactly when it is a numeral for a value from `1` to `2^64 - 1`. -/
theorem parseCapacity_eq_ok_iff (t : String) (n : Nat) :
    parseCapacity t = .ok n ↔ CapacityAccepts (some t) n := by
  rw [capacityAccepts_some_iff]
  unfold parseCapacity
  cases parseUnsigned t with
  | none => simp
  | some m =>
    by_cases hm : 0 < m
    · simp only [if_pos hm, Except.ok.injEq, Option.some.injEq]
      exact ⟨fun h => ⟨h, h ▸ hm⟩, fun h => h.1⟩
    · simp only [if_neg hm, reduceCtorEq, Option.some.injEq, false_iff, not_and]
      exact fun h => h ▸ hm

/-- Otherwise the refusal names the capacity and its text. -/
theorem parseCapacity_eq_error {t : String} {e : ConfigError} (h : parseCapacity t = .error e) :
    e = ⟨.dispatcherCapacity, t, .notPositiveInteger⟩ := by
  unfold parseCapacity at h
  split at h
  · split at h
    · cases h
    · cases h; rfl
  · cases h; rfl

/-! ## Reading the three variables -/

/-- A variable is read as its trimmed value, when that is not empty. -/
theorem read_eq_some_iff (lookup : String → Option String) (v : ConfigVar) (t : String) :
    read lookup v = some t ↔ ∃ raw, lookup v.name = some raw ∧ Text.trimBlank raw = t ∧ t ≠ "" := by
  unfold read
  cases lookup v.name with
  | none => simp
  | some raw =>
    by_cases he : (Text.trimBlank raw).isEmpty = true
    · have he' : Text.trimBlank raw = "" := String.isEmpty_iff.1 he
      simp only [he, if_true, reduceCtorEq, Option.some.injEq, exists_eq_left', false_iff, not_and,
        not_not]
      exact fun h => h ▸ he'
    · have he' : Text.trimBlank raw ≠ "" := fun h => he (String.isEmpty_iff.2 h)
      simp only [he, Bool.false_eq_true, if_false, Option.some.injEq, exists_eq_left']
      exact ⟨fun h => ⟨h, h ▸ he'⟩, fun h => h.1⟩

/-- The reader in three parts: the capacity, then the format, with the level beside them. -/
theorem ofLookup_eq (lookup : String → Option String) : ofLookup lookup =
    ((read lookup .dispatcherCapacity).elim (.ok default.dispatcherCapacity) parseCapacity).bind
      fun n => Except.map (fun f => ⟨n, (read lookup .logLevel).getD default.logLevel, f⟩)
        ((read lookup .logFormat).elim (.ok default.logFormat) fun t =>
          (LogFormat.parse t).elim (.error ⟨.logFormat, t, .notLogFormat⟩) .ok) := by
  unfold ofLookup
  -- each match of the reader opens once its scrutinee is a constructor: the capacity first, a
  -- refused capacity ends the read, and then the format
  cases read lookup .dispatcherCapacity with
  | none =>
    cases read lookup .logFormat with
    | none => rfl
    | some t =>
      dsimp only [Option.elim]
      cases LogFormat.parse t <;> rfl
  | some c =>
    dsimp only [Option.elim]
    cases parseCapacity c with
    | error e => rfl
    | ok n =>
      cases read lookup .logFormat with
      | none => rfl
      | some t =>
        dsimp only [Option.elim]
        cases LogFormat.parse t <;> rfl

/-! ## Each part of the reader -/

theorem bind_eq_ok_iff {ε α β : Type} (x : Except ε α) (g : α → Except ε β) (b : β) :
    x.bind g = .ok b ↔ ∃ a, x = .ok a ∧ g a = .ok b := by
  cases x <;> simp [Except.bind]

theorem bind_eq_error_iff {ε α β : Type} (x : Except ε α) (g : α → Except ε β) (e : ε) :
    x.bind g = .error e ↔ x = .error e ∨ ∃ a, x = .ok a ∧ g a = .error e := by
  cases x <;> simp [Except.bind]

theorem map_eq_ok_iff {ε α β : Type} (h : α → β) (x : Except ε α) (b : β) :
    Except.map h x = .ok b ↔ ∃ a, x = .ok a ∧ h a = b := by
  cases x <;> simp [Except.map]

theorem map_eq_error_iff {ε α β : Type} (h : α → β) (x : Except ε α) (e : ε) :
    Except.map h x = .error e ↔ x = .error e := by
  cases x <;> simp [Except.map]

/-- The capacity part reads exactly the accepted settings. -/
theorem readCapacity_eq_ok_iff (o : Option String) (n : Nat) :
    o.elim (.ok default.dispatcherCapacity) parseCapacity = .ok n ↔ CapacityAccepts o n := by
  cases o with
  | none => simp [CapacityAccepts, default, eq_comm]
  | some t => exact parseCapacity_eq_ok_iff t n

/-- The capacity part refuses exactly a set capacity that is not accepted, and names it. -/
theorem readCapacity_eq_error_iff (o : Option String) (e : ConfigError) :
    o.elim (.ok default.dispatcherCapacity) parseCapacity = .error e ↔
      ∃ t, o = some t ∧ (∀ n, ¬CapacityAccepts o n) ∧ e = ⟨.dispatcherCapacity, t, .notPositiveInteger⟩ := by
  cases o with
  | none => simp
  | some t =>
    simp only [Option.elim_some, Option.some.injEq, exists_eq_left']
    cases hp : parseCapacity t with
    | error e' =>
      have hrefused : ∀ n, ¬CapacityAccepts (some t) n := fun n h =>
        absurd ((parseCapacity_eq_ok_iff t n).2 h) (by simp [hp])
      simp only [Except.error.injEq]
      rw [parseCapacity_eq_error hp]
      exact ⟨fun h => ⟨hrefused, h.symm⟩, fun h => h.2.symm⟩
    | ok n =>
      simp only [reduceCtorEq, false_iff, not_and]
      exact fun hrefused => absurd ((parseCapacity_eq_ok_iff t n).1 hp) (hrefused n)

/-- The format part reads a trimmed setting exactly when it is accepted. -/
theorem readFormat_eq_ok_iff {o : Option String} (ho : ∀ t, o = some t → Text.trimBlank t = t)
    (f : LogFormat) :
    (o.elim (Except.ok default.logFormat : Except ConfigError LogFormat) fun t =>
      (LogFormat.parse t).elim (.error ⟨.logFormat, t, .notLogFormat⟩) .ok) = .ok f ↔
      FormatAccepts o f := by
  cases o with
  | none => simp [FormatAccepts, default, eq_comm]
  | some t =>
    simp only [Option.elim_some, FormatAccepts]
    have hparse := LogFormat.parse_eq_some_iff t f
    rw [ho t rfl] at hparse
    rw [← hparse]
    cases LogFormat.parse t <;> simp

/-- The format part refuses exactly a set format that is not accepted, and names it. -/
theorem readFormat_eq_error_iff {o : Option String} (ho : ∀ t, o = some t → Text.trimBlank t = t)
    (e : ConfigError) :
    (o.elim (Except.ok default.logFormat : Except ConfigError LogFormat) fun t =>
      (LogFormat.parse t).elim (.error ⟨.logFormat, t, .notLogFormat⟩) .ok) = .error e ↔
      ∃ t, o = some t ∧ (∀ f, ¬FormatAccepts o f) ∧ e = ⟨.logFormat, t, .notLogFormat⟩ := by
  cases o with
  | none => simp
  | some t =>
    have hacc := fun f => (readFormat_eq_ok_iff ho f)
    simp only [Option.elim_some, Option.some.injEq, exists_eq_left'] at hacc ⊢
    cases hp : LogFormat.parse t with
    | none =>
      simp only [Option.elim_none, Except.error.injEq]
      have hrefused : ∀ f, ¬FormatAccepts (some t) f := fun f h => by
        simp [← hacc f, hp] at h
      exact ⟨fun h => ⟨hrefused, h.symm⟩, fun h => h.2.symm⟩
    | some f =>
      have hf := (hacc f).1 (by simp [hp])
      simp only [Option.elim_some, reduceCtorEq, false_iff, not_and]
      exact fun hrefused => absurd hf (hrefused f)

/-- What is read is already trimmed. -/
theorem read_trimmed (lookup : String → Option String) (v : ConfigVar) :
    ∀ t, read lookup v = some t → Text.trimBlank t = t := by
  intro t h
  obtain ⟨raw, -, rfl, -⟩ := (read_eq_some_iff lookup v t).1 h
  exact Text.trimBlank_trimBlank raw

/-! ## The whole reader -/

section
variable (lookup : String → Option String)

/-- A configuration is read exactly when its capacity and its format settings are accepted; it has
the capacity and the format they give and the level as set, `info` when unset. -/
theorem ofLookup_eq_ok_iff (cfg : BridgeConfig) :
    ofLookup lookup = .ok cfg ↔
      CapacityAccepts (read lookup .dispatcherCapacity) cfg.dispatcherCapacity ∧
      cfg.logLevel = (read lookup .logLevel).getD defaultLogLevel ∧
      FormatAccepts (read lookup .logFormat) cfg.logFormat := by
  rw [ofLookup_eq, bind_eq_ok_iff]
  simp only [map_eq_ok_iff, readCapacity_eq_ok_iff,
    readFormat_eq_ok_iff (read_trimmed lookup .logFormat)]
  obtain ⟨n, level, f⟩ := cfg
  constructor
  · rintro ⟨n', hn, f', hf, heq⟩
    cases heq
    exact ⟨hn, rfl, hf⟩
  · rintro ⟨hn, hlevel, hf⟩
    exact ⟨n, hn, f, hf, by simp only at hlevel; rw [hlevel]; rfl⟩

/-- A configuration is refused with the capacity named whenever the capacity is set and not
accepted, whatever the format; otherwise with the format named, when that is set and not accepted.
The refusal carries the trimmed value. -/
theorem ofLookup_eq_error_iff (e : ConfigError) :
    ofLookup lookup = .error e ↔
      (∃ t, read lookup .dispatcherCapacity = some t ∧
        (∀ n, ¬CapacityAccepts (some t) n) ∧ e = ⟨.dispatcherCapacity, t, .notPositiveInteger⟩) ∨
      ((∃ n, CapacityAccepts (read lookup .dispatcherCapacity) n) ∧
        ∃ t, read lookup .logFormat = some t ∧ (∀ f, ¬FormatAccepts (some t) f) ∧
          e = ⟨.logFormat, t, .notLogFormat⟩) := by
  rw [ofLookup_eq, bind_eq_error_iff]
  simp only [map_eq_error_iff, readCapacity_eq_error_iff, readCapacity_eq_ok_iff,
    readFormat_eq_error_iff (read_trimmed lookup .logFormat)]
  constructor
  · rintro (⟨t, ht, hrefused, rfl⟩ | ⟨n, hn, t, ht, hrefused, rfl⟩)
    · exact .inl ⟨t, ht, ht ▸ hrefused, rfl⟩
    · exact .inr ⟨⟨n, hn⟩, t, ht, ht ▸ hrefused, rfl⟩
  · rintro (⟨t, ht, hrefused, rfl⟩ | ⟨⟨n, hn⟩, t, ht, hrefused, rfl⟩)
    · exact .inl ⟨t, ht, ht ▸ hrefused, rfl⟩
    · exact .inr ⟨n, hn, t, ht, ht ▸ hrefused, rfl⟩

/-- The configuration grammar, whole: the reader succeeds exactly when the capacity is unset or a
numeral for a value from `1` to `2^64 - 1` and the format is unset or spells `json` or `pretty` in
any ASCII case; what it reads is the capacity given (256 when unset), the level as set (`info` when
unset) and the format given (the build's default when unset), and its logging part carries the
same level and format; and a refusal names the capacity whenever that is set and wrong, the format
otherwise, each with its trimmed value. -/
theorem ofLookup_accepts_grammar :
    ((∃ cfg, ofLookup lookup = .ok cfg) ↔
      (∃ n, CapacityAccepts (read lookup .dispatcherCapacity) n) ∧
      (∃ f, FormatAccepts (read lookup .logFormat) f)) ∧
    (∀ cfg, ofLookup lookup = .ok cfg ↔
      CapacityAccepts (read lookup .dispatcherCapacity) cfg.dispatcherCapacity ∧
      cfg.logLevel = (read lookup .logLevel).getD defaultLogLevel ∧
      FormatAccepts (read lookup .logFormat) cfg.logFormat) ∧
    (∀ cfg, ofLookup lookup = .ok cfg →
      cfg.logging = ⟨(read lookup .logLevel).getD defaultLogLevel, cfg.logFormat⟩) ∧
    (∀ e, ofLookup lookup = .error e ↔
      (∃ t, read lookup .dispatcherCapacity = some t ∧
        (∀ n, ¬CapacityAccepts (some t) n) ∧ e = ⟨.dispatcherCapacity, t, .notPositiveInteger⟩) ∨
      ((∃ n, CapacityAccepts (read lookup .dispatcherCapacity) n) ∧
        ∃ t, read lookup .logFormat = some t ∧ (∀ f, ¬FormatAccepts (some t) f) ∧
          e = ⟨.logFormat, t, .notLogFormat⟩)) := by
  refine ⟨⟨?_, ?_⟩, ofLookup_eq_ok_iff lookup, fun cfg h => ?_, ofLookup_eq_error_iff lookup⟩
  · rintro ⟨cfg, h⟩
    obtain ⟨hn, -, hf⟩ := (ofLookup_eq_ok_iff lookup cfg).1 h
    exact ⟨⟨_, hn⟩, ⟨_, hf⟩⟩
  · rintro ⟨⟨n, hn⟩, ⟨f, hf⟩⟩
    exact ⟨⟨n, (read lookup .logLevel).getD defaultLogLevel, f⟩,
      (ofLookup_eq_ok_iff lookup _).2 ⟨hn, rfl, hf⟩⟩
  · obtain ⟨-, hlevel, -⟩ := (ofLookup_eq_ok_iff lookup cfg).1 h
    simp [logging, hlevel]

end

end BridgeConfig

end ChannelBridge
