import Mathlib
import ChannelBridge.Payload.Basic

/-! # Widening a single to a double and back

A dictation level is a single; it is written to JSON as the double with the same value, and read
back by rounding that double to the nearest single. This file shows that the trip loses nothing:
every finite single comes back with its own bit pattern, and a single that is not finite widens to
a double that is not finite either.

Doubles are Lean's `Float`, whose logical model is a bit pattern with every NaN made canonical.
The first part reads that model back in terms of the bit fields (`Float.toNat_toBits_ofBits`,
`BinaryShape.ofFloat_ofBits`, `Float.isFinite_ofBits`); the second follows a single through
`Binary32.toFloat` and `Binary32.ofFloat`.

* `Binary32.ofFloat_toFloat`: a finite single survives the widening.
* `Binary32.isFinite_toFloat`: the widened double is finite exactly when the single is.
-/

namespace ChannelBridge

open Float.Model Float.Model.UnpackedFloat

/-! ## Doubles through their bit fields -/

/-- A packed double is its sign, biased exponent and fraction read as one number. -/
theorem toNat_packComponents (s : Sign) (e : BitVec 11) (m : BitVec 52) :
    (packComponents Format.binary64 s e m).toNat =
      s.toBitVec.toNat * 2 ^ 63 + e.toNat * 2 ^ 52 + m.toNat := by
  simp only [packComponents, BitVec.toNat_append]
  rw [← Nat.shiftLeft_add_eq_or_of_lt m.isLt, ← Nat.shiftLeft_add_eq_or_of_lt e.isLt,
    Nat.shiftLeft_eq, Nat.shiftLeft_eq, Nat.add_mul, Nat.mul_assoc, ← Nat.pow_add]

theorem toNat_unpackExponent (v : BitVec 64) :
    (@unpackExponent Format.binary64 v).toNat = v.toNat / 2 ^ 52 % 2 ^ 11 := by
  simp [unpackExponent, Nat.shiftRight_eq_div_pow]

theorem toNat_unpackMantissa (v : BitVec 64) :
    (@unpackMantissa Format.binary64 v).toNat = v.toNat % 2 ^ 52 := by
  simp [unpackMantissa, Nat.shiftRight_eq_div_pow]

/-- The sign bit, read and written back, is the top bit of the pattern. -/
theorem toNat_sign_unpackSign (v : BitVec 64) :
    (Sign.ofBitVec (@unpackSign Format.binary64 v)).toBitVec.toNat = v.toNat / 2 ^ 63 := by
  have hv := v.isLt
  have hs : (@unpackSign Format.binary64 v).toNat = v.toNat / 2 ^ 63 := by
    simp only [unpackSign, BitVec.toNat_cast, BitVec.extractLsb_toNat, Nat.shiftRight_eq_div_pow]
    omega
  unfold Sign.ofBitVec
  split
  · next h =>
    rw [h] at hs
    simp only [Sign.toBitVec, BitVec.toNat_zero] at hs ⊢
    exact hs
  · next h =>
    have h0 : (@unpackSign Format.binary64 v).toNat ≠ 0 :=
      fun e => h (BitVec.eq_of_toNat_eq (by simpa using e))
    simp only [Sign.toBitVec, BitVec.toNat_ofNat]
    omega

/-- Unpacking a double and packing it again gives the same pattern, except that a NaN comes back
as the canonical NaN. -/
theorem toNat_pack_unpack (v : BitVec 64) :
    (UnpackedFloat.pack Format.binary64 (UnpackedFloat.unpack Format.binary64 v)).toNat =
      if v.toNat / 2 ^ 52 % 2 ^ 11 = 2047 ∧ v.toNat % 2 ^ 52 ≠ 0 then 0x7FF8000000000000
      else v.toNat := by
  have hv := v.isLt
  have he := toNat_unpackExponent v
  have hm := toNat_unpackMantissa v
  have hs := toNat_sign_unpackSign v
  have hall : (-1#11).toNat = 2047 := by decide
  unfold UnpackedFloat.unpack
  dsimp only
  split
  · next hexp =>
    -- the exponent field is all ones: an infinity, or a NaN
    have hE : v.toNat / 2 ^ 52 % 2 ^ 11 = 2047 := by rw [← he, hexp]; decide
    split
    · next hman =>
      have hM : v.toNat % 2 ^ 52 = 0 := by rw [← hm, hman]; rfl
      simp only [UnpackedFloat.pack, packedInfinity, toNat_packComponents, hs, hall, hE, hM]
      simp
      omega
    · next hman =>
      have hM : v.toNat % 2 ^ 52 ≠ 0 :=
        fun h0 => hman (BitVec.eq_of_toNat_eq (by rw [hm, h0]; rfl))
      rw [if_pos ⟨hE, hM⟩]
      simp only [UnpackedFloat.pack, packedNaN, toNat_packComponents]
      decide
  · next hexp =>
    have hE : v.toNat / 2 ^ 52 % 2 ^ 11 ≠ 2047 :=
      fun h0 => hexp (BitVec.eq_of_toNat_eq (by rw [he, h0]; decide))
    have hrhs :
        (if v.toNat / 2 ^ 52 % 2 ^ 11 = 2047 ∧ v.toNat % 2 ^ 52 ≠ 0 then 0x7FF8000000000000
        else v.toNat) = v.toNat := if_neg fun h => hE h.1
    rw [hrhs]
    split
    · next hzero =>
      have hE0 : v.toNat / 2 ^ 52 % 2 ^ 11 = 0 := by rw [← he, hzero]; rfl
      split
      · next hman =>
        -- a signed zero
        have hM : v.toNat % 2 ^ 52 = 0 := by rw [← hm, hman]; rfl
        simp only [UnpackedFloat.pack, packedZero, toNat_packComponents, hs]
        simp
        omega
      · next hman =>
        -- a subnormal: the exponent stays at its least value and the fraction has no leading one
        have hM : v.toNat % 2 ^ 52 ≠ 0 :=
          fun h0 => hman (BitVec.eq_of_toNat_eq (by rw [hm, h0]; rfl))
        have hlog : (@unpackMantissa Format.binary64 v).toNat.log2 < 52 := by
          rw [Nat.log2_lt (by omega)]
          exact (@unpackMantissa Format.binary64 v).isLt
        simp only [UnpackedFloat.pack, he, hE0]
        rw [if_neg (by decide), if_neg (by simp only [Format.mantissaBits]; omega)]
        simp only [toNat_packComponents, hs, BitVec.toNat_ofNat, hm]
        omega
    · next hzero =>
      -- a normal double: the implicit bit puts the mantissa in `[2^52, 2^53)`
      have hE0 : v.toNat / 2 ^ 52 % 2 ^ 11 ≠ 0 :=
        fun h0 => hzero (BitVec.eq_of_toNat_eq (by rw [he, h0]; rfl))
      have hlt := (@unpackMantissa Format.binary64 v).isLt
      have happ : (1#1 ++ @unpackMantissa Format.binary64 v).toNat =
          2 ^ 52 + v.toNat % 2 ^ 52 := by
        rw [BitVec.toNat_append, ← Nat.shiftLeft_add_eq_or_of_lt hlt, hm]
        simp [Nat.shiftLeft_eq]
      have hlog : (2 ^ 52 + v.toNat % 2 ^ 52).log2 = 52 :=
        (Nat.log2_eq_iff (by omega)).2 ⟨by omega, by omega⟩
      simp only [UnpackedFloat.pack, he, happ, hlog]
      rw [if_neg (by simp only [Format.exponentBias]; omega), if_pos (by decide)]
      simp only [toNat_packComponents, hs, BitVec.toNat_ofNat]
      omega

/-- A pattern whose exponent field is all ones and whose fraction is not zero is a NaN. -/
theorem BinaryShape.ofBits_of_nan {b : UInt64} (hE : b.toNat / 2 ^ 52 % 2 ^ 11 = 2047)
    (hM : b.toNat % 2 ^ 52 ≠ 0) : BinaryShape.ofBits b = .nan := by
  unfold BinaryShape.ofBits
  dsimp only
  -- the exponent field is all ones and the fraction is not zero
  split
  · rfl
  · next hne => exact absurd (by omega) hne

/-- The bits of a double made from bits: the same ones, but a NaN is made the canonical NaN. -/
theorem Float.toNat_toBits_ofBits (b : UInt64) :
    (Float.ofBits b).toBits.toNat =
      if b.toNat / 2 ^ 52 % 2 ^ 11 = 2047 ∧ b.toNat % 2 ^ 52 ≠ 0 then 0x7FF8000000000000
      else b.toNat :=
  toNat_pack_unpack b.toBitVec

/-- Reading the shape of a double made from bits is reading the bits: the canonical NaN that may
stand in for a NaN pattern is a NaN too. -/
theorem BinaryShape.ofFloat_ofBits (b : UInt64) :
    BinaryShape.ofFloat (Float.ofBits b) = BinaryShape.ofBits b := by
  unfold BinaryShape.ofFloat
  by_cases hnan : b.toNat / 2 ^ 52 % 2 ^ 11 = 2047 ∧ b.toNat % 2 ^ 52 ≠ 0
  · -- the pattern is a NaN, and so is the canonical NaN that stands in for it
    have hbits : (Float.ofBits b).toBits = 0x7FF8000000000000 :=
      UInt64.toNat_inj.1 (by rw [Float.toNat_toBits_ofBits, if_pos hnan]; rfl)
    rw [hbits, BinaryShape.ofBits_of_nan hnan.1 hnan.2]
    decide
  · have hbits : (Float.ofBits b).toBits = b :=
      UInt64.toNat_inj.1 (by rw [Float.toNat_toBits_ofBits, if_neg hnan])
    rw [hbits]

/-- Whether an unpacked pattern is finite is read off its exponent field. -/
theorem isFinite_unpack (v : BitVec 64) :
    (UnpackedFloat.unpack Format.binary64 v).isFinite =
      decide (v.toNat / 2 ^ 52 % 2 ^ 11 ≠ 2047) := by
  have he := toNat_unpackExponent v
  unfold UnpackedFloat.unpack
  dsimp only
  split
  · next hexp =>
    have hE : v.toNat / 2 ^ 52 % 2 ^ 11 = 2047 := by rw [← he, hexp]; decide
    simp only [hE, ne_eq, not_true_eq_false, decide_false]
    split <;> rfl
  · next hexp =>
    have hE : v.toNat / 2 ^ 52 % 2 ^ 11 ≠ 2047 :=
      fun h0 => hexp (BitVec.eq_of_toNat_eq (by rw [he, h0]; decide))
    simp only [hE, ne_eq, not_false_eq_true, decide_true]
    split
    · split <;> rfl
    · rfl

/-- A double made from bits is finite exactly when its exponent field is not all ones. -/
theorem Float.isFinite_eq (a : Float) :
    a.isFinite = decide (a.toBits.toNat / 2 ^ 52 % 2 ^ 11 ≠ 2047) := by
  change (UnpackedFloat.unpack Format.binary64 a.toBits.toBitVec).isFinite = _
  rw [isFinite_unpack, UInt64.toNat_toBitVec]

theorem Float.isFinite_ofBits (b : UInt64) :
    (Float.ofBits b).isFinite = decide (b.toNat / 2 ^ 52 % 2 ^ 11 ≠ 2047) := by
  rw [Float.isFinite_eq, Float.toNat_toBits_ofBits]
  split
  · next hnan =>
    -- the canonical NaN has its exponent field all ones too
    exact decide_eq_decide.2 (iff_of_false (by decide) fun h => h hnan.1)
  · rfl

/-- A double whose shape is finite is finite. -/
theorem Float.isFinite_of_finite {a : Float} {negative : Bool} {m : Nat} {e : Int}
    (h : BinaryShape.ofFloat a = .finite negative m e) : a.isFinite = true := by
  rw [Float.isFinite_eq, decide_eq_true_iff]
  intro hmax
  -- the exponent is all ones, so the shape is an infinity or a NaN
  unfold BinaryShape.ofFloat BinaryShape.ofBits at h
  dsimp only at h
  split at h
  · split at h <;> cases h
  · next hne => exact hne (by omega)

/-! ## A single, widened and rounded back -/

namespace Binary32

/-- Rounding away `k` bits that are all zero is exact. -/
theorem roundShift_mul_pow (f k : Nat) : roundShift (f * 2 ^ k) k = f := by
  have hpos : 0 < 2 ^ k := Nat.two_pow_pos k
  unfold roundShift
  simp [Nat.mul_div_cancel _ hpos, hpos]

/-- A value whose mantissa carries `k` zero bits beyond what the single keeps rounds exactly, to
the single with mantissa `f` at quantum `e + k`. -/
theorem round_of_exact (negative : Bool) {f k : Nat} {e : Int} (hf : f ≠ 0) (hk : 0 < k)
    (hq : max (Int.ofNat (f * 2 ^ k).log2 + e - 23) (-149) = e + k) (hover : e + k + 23 ≤ 127)
    (htop : f < 2 ^ 24) :
    round negative (f * 2 ^ k) e =
      if f < 2 ^ 23 then ⟨((if negative then 2 ^ 31 else 0) + f).toUInt32⟩
      else ⟨((if negative then 2 ^ 31 else 0) + (e + k + 150).toNat * 2 ^ 23 +
        (f - 2 ^ 23)).toUInt32⟩ := by
  have hm : f * 2 ^ k ≠ 0 := Nat.mul_ne_zero hf (Nat.pos_iff_ne_zero.1 (Nat.two_pow_pos k))
  -- the quantum lies above `e`, so the mantissa is shifted right by exactly `k` bits
  have hle : ¬ (e + ↑k ≤ e) := by omega
  have hsh : (e + ↑k - e).toNat = k := by omega
  have hne : f ≠ 2 ^ 24 := by omega
  unfold round
  simp only [hm, if_false, hq, hle, hsh, roundShift_mul_pow, hne]
  rw [if_neg (by omega)]

/-- The bits of a single are its sign, biased exponent and fraction. -/
theorem toNat_bits (x : Binary32) :
    x.bits.toNat = (if x.fields.1 then 2 ^ 31 else 0) + x.fields.2.1 * 2 ^ 23 + x.fields.2.2 := by
  have hx := x.bits.toNat_lt
  have hsign : x.fields.1 = decide (2 ^ 31 ≤ x.bits.toNat) := rfl
  have hexp : x.fields.2.1 = x.bits.toNat / 2 ^ 23 % 2 ^ 8 := rfl
  have hfrac : x.fields.2.2 = x.bits.toNat % 2 ^ 23 := rfl
  rw [hexp, hfrac]
  -- the sign bit is the top bit
  cases hs : x.fields.1
  · rw [hsign] at hs
    have hlt := of_decide_eq_false hs
    simp only [Bool.false_eq_true, if_false]
    omega
  · rw [hsign] at hs
    have hle := of_decide_eq_true hs
    simp only [if_true]
    omega

/-- A mantissa of at most 53 bits moved up to 53 bits lies in `[2^52, 2^53)`. -/
theorem mul_pow_sub_log2_mem {m : Nat} (hm : m ≠ 0) (hl : m.log2 ≤ 52) :
    2 ^ 52 ≤ m * 2 ^ (52 - m.log2) ∧ m * 2 ^ (52 - m.log2) < 2 ^ 53 := by
  have hsplit : 2 ^ 52 = 2 ^ m.log2 * 2 ^ (52 - m.log2) := by
    rw [← Nat.pow_add]; congr 1; omega
  have hsplit' : 2 ^ 53 = 2 ^ (m.log2 + 1) * 2 ^ (52 - m.log2) := by
    rw [← Nat.pow_add]; congr 1; omega
  exact ⟨hsplit ▸ Nat.mul_le_mul_right _ (Nat.log2_self_le hm),
    hsplit' ▸ Nat.mul_lt_mul_of_pos_right Nat.lt_log2_self (Nat.two_pow_pos _)⟩

/-- A non-zero mantissa of at most 24 bits, widened to 53: the double's shape. -/
theorem ofFloat_exactDouble (negative : Bool) {m : Nat} {q : Int} (hm : 0 < m) (hm' : m < 2 ^ 24)
    (hq : -149 ≤ q) (hq' : q ≤ 104) :
    BinaryShape.ofFloat (exactDouble negative m q) =
      .finite negative (m * 2 ^ (52 - m.log2)) (Int.ofNat m.log2 + q - 52) := by
  have hl : m.log2 < 24 := (Nat.log2_lt (by omega)).2 hm'
  have hwide := mul_pow_sub_log2_mem (m := m) (by omega) (by omega)
  unfold exactDouble
  rw [if_neg (by omega), BinaryShape.ofFloat_ofBits]
  simp only [Int.ofNat_eq_natCast]
  generalize hM : m * 2 ^ (52 - m.log2) = M at hwide ⊢
  generalize hL : m.log2 = L at hl ⊢
  have hbiased :
      874 ≤ ((L : Int) + q + 1023).toNat ∧ ((L : Int) + q + 1023).toNat ≤ 1150 := by
    omega
  generalize hB : ((L : Int) + q + 1023).toNat = B at hbiased
  have hexp : (B : Int) - 1075 = L + q - 52 := by omega
  -- the double's bit pattern, field by field
  have hfields : ∀ sign : Nat, sign = 0 ∨ sign = 2 ^ 63 →
      (sign + B * 2 ^ 52 + (M - 2 ^ 52)) / 2 ^ 52 % 2 ^ 11 = B ∧
      (sign + B * 2 ^ 52 + (M - 2 ^ 52)) % 2 ^ 52 = M - 2 ^ 52 ∧
      sign + B * 2 ^ 52 + (M - 2 ^ 52) < 2 ^ 64 := by
    intro sign hsign
    omega
  unfold BinaryShape.ofBits
  simp only [Nat.toUInt64_eq]
  cases negative
  · obtain ⟨h1, h2, h3⟩ := hfields 0 (.inl rfl)
    simp only [Bool.false_eq_true, if_false, UInt64.toNat_ofNat_of_lt' h3, h1, h2]
    rw [if_neg (by omega), if_neg (by omega)]
    have hs : decide (2 ^ 63 ≤ 0 + B * 2 ^ 52 + (M - 2 ^ 52)) = false :=
      decide_eq_false (by omega)
    rw [hs, Nat.sub_add_cancel hwide.1, Int.ofNat_eq_natCast, hexp]
  · obtain ⟨h1, h2, h3⟩ := hfields (2 ^ 63) (.inr rfl)
    simp only [if_true, UInt64.toNat_ofNat_of_lt' h3, h1, h2]
    rw [if_neg (by omega), if_neg (by omega)]
    have hs : decide (2 ^ 63 ≤ 2 ^ 63 + B * 2 ^ 52 + (M - 2 ^ 52)) = true :=
      decide_eq_true (by omega)
    rw [hs, Nat.sub_add_cancel hwide.1, Int.ofNat_eq_natCast, hexp]

/-- A double of finite shape rounds through `round`. -/
theorem ofFloat_of_finite {f : Float} {negative : Bool} {m : Nat} {e : Int}
    (h : BinaryShape.ofFloat f = .finite negative m e) : ofFloat f = round negative m e := by
  unfold ofFloat
  rw [h]

/-- A signed zero widens to the double zero of that sign. -/
theorem ofFloat_exactDouble_zero (negative : Bool) (q : Int) :
    BinaryShape.ofFloat (exactDouble negative 0 q) = .finite negative 0 (-1074) := by
  unfold exactDouble
  rw [if_pos rfl, BinaryShape.ofFloat_ofBits]
  cases negative <;> decide

/-- A single's own mantissa and quantum, widened and rounded back: the single's bit pattern,
subnormal below `2^23` and normal from there. The quantum is the one the single has, which is what
`hq₀` says. -/
theorem ofFloat_exactDouble_eq (negative : Bool) {m : Nat} {q : Int} (hm : 0 < m)
    (hm' : m < 2 ^ 24) (hq : -149 ≤ q) (hq' : q ≤ 104)
    (hq₀ : max (Int.ofNat m.log2 + q - 23) (-149) = q) :
    ofFloat (exactDouble negative m q) =
      if m < 2 ^ 23 then ⟨((if negative then 2 ^ 31 else 0) + m).toUInt32⟩
      else ⟨((if negative then 2 ^ 31 else 0) + (q + 150).toNat * 2 ^ 23 +
        (m - 2 ^ 23)).toUInt32⟩ := by
  have hl : m.log2 < 24 := (Nat.log2_lt (by omega)).2 hm'
  have hwide := mul_pow_sub_log2_mem (m := m) (by omega) (by omega)
  have hwlog : (m * 2 ^ (52 - m.log2)).log2 = 52 := (Nat.log2_eq_iff (by omega)).2 hwide
  -- the double's quantum sits `52 - log2 m` places below the single's
  have hek : Int.ofNat m.log2 + q - 52 + ↑(52 - m.log2) = q := by
    simp only [Int.ofNat_eq_natCast]; omega
  have htop : Int.ofNat 52 + (Int.ofNat m.log2 + q - 52) - 23 = Int.ofNat m.log2 + q - 23 := by
    simp only [Int.ofNat_eq_natCast]; omega
  rw [ofFloat_of_finite (ofFloat_exactDouble negative hm hm' hq hq'),
    round_of_exact negative (by omega) (by omega) (by rw [hwlog, hek, htop, hq₀])
      (by rw [hek]; omega) hm', hek]

/-- Widening a finite single and rounding the double back gives the same single. -/
theorem ofFloat_toFloat (x : Binary32) (hx : x.isFinite = true) : ofFloat x.toFloat = x := by
  have hbits := toNat_bits x
  rcases hfields : x.fields with ⟨negative, biased, fraction⟩
  rw [hfields] at hbits
  dsimp only at hbits
  have hb : biased < 2 ^ 8 := by simp only [fields] at hfields; cases hfields; omega
  have hf : fraction < 2 ^ 23 := by simp only [fields] at hfields; cases hfields; omega
  have h255 : biased ≠ 255 := by simpa [isFinite, hfields] using hx
  -- the bit pattern fixes the single, so it is enough to rebuild the pattern
  have hext : ∀ n : Nat, n = x.bits.toNat → (⟨n.toUInt32⟩ : Binary32) = x := by
    intro n hn
    cases x
    simp only [mk.injEq]
    apply UInt32.toNat_inj.1
    simp [hn]
  unfold toFloat
  simp only [hfields, if_neg h255]
  split
  · next hzero =>
    subst hzero
    by_cases hf0 : fraction = 0
    · -- a signed zero widens to a signed zero
      subst hf0
      rw [ofFloat_of_finite (ofFloat_exactDouble_zero negative _)]
      simp only [round, if_true]
      exact hext _ (by rw [hbits]; simp)
    · -- a subnormal single widens to a normal double with the fraction moved up
      have hl : fraction.log2 < 23 := (Nat.log2_lt hf0).2 hf
      rw [ofFloat_exactDouble_eq negative (Nat.pos_of_ne_zero hf0) (by omega) (by omega) (by omega)
        (by simp only [Int.ofNat_eq_natCast]; omega), if_pos hf]
      exact hext _ (by rw [hbits]; omega)
  · next hnz =>
    -- a normal single: the implicit bit makes a 24-bit mantissa
    have hlog : (fraction + 2 ^ 23).log2 = 23 :=
      (Nat.log2_eq_iff (by omega)).2 ⟨by omega, by omega⟩
    rw [ofFloat_exactDouble_eq negative (by omega) (by omega)
      (by simp only [Int.ofNat_eq_natCast]; omega) (by simp only [Int.ofNat_eq_natCast]; omega)
      (by simp only [hlog, Int.ofNat_eq_natCast]; omega), if_neg (by omega)]
    exact hext _ (by rw [hbits]; simp only [Int.ofNat_eq_natCast]; omega)

/-- A widened single is a finite double. -/
theorem isFinite_exactDouble (negative : Bool) {m : Nat} {q : Int} (hm' : m < 2 ^ 24)
    (hq : -149 ≤ q) (hq' : q ≤ 104) : (exactDouble negative m q).isFinite = true := by
  rcases Nat.eq_zero_or_pos m with rfl | hm
  · exact Float.isFinite_of_finite (ofFloat_exactDouble_zero negative q)
  · exact Float.isFinite_of_finite (ofFloat_exactDouble negative hm hm' hq hq')

/-- The widened double is finite exactly when the single is. -/
theorem isFinite_toFloat (x : Binary32) : x.toFloat.isFinite = x.isFinite := by
  rcases hfields : x.fields with ⟨negative, biased, fraction⟩
  have hb : biased < 2 ^ 8 := by simp only [fields] at hfields; cases hfields; omega
  have hf : fraction < 2 ^ 23 := by simp only [fields] at hfields; cases hfields; omega
  unfold toFloat isFinite
  simp only [hfields]
  by_cases h255 : biased = 255
  · -- an infinity or a NaN widens to an infinity or a NaN
    subst h255
    simp only [if_true, bne_self_eq_false]
    split <;> rw [Float.isFinite_ofBits] <;> (try cases negative) <;> decide
  · have hrhs : (biased != 255) = true := by simp [h255]
    rw [if_neg h255, hrhs]
    split
    · exact isFinite_exactDouble negative (by omega) (by omega) (by omega)
    · exact isFinite_exactDouble negative (by omega) (by simp only [Int.ofNat_eq_natCast]; omega)
        (by simp only [Int.ofNat_eq_natCast]; omega)

end Binary32

end ChannelBridge
