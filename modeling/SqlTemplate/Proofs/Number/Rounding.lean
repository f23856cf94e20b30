import Mathlib
import SqlTemplate.Number.Decimal

/-! # Rounding to floating-point numbers

A floating-point number has 53 significant binary digits. Rounding takes the nearest one, and at a tie the one whose significand is
even. What a whole number becomes is said here by quotients of natural numbers, and so is how large a product is at least.
-/

namespace SqlTemplate.Number

open Float.Model
open Float.Model.UnpackedFloat (Sign ExtendedMantissa roundWithAccuracy shiftToTargetExponent)

/-! ## Rounded quotients -/

/-- The integer nearest to a quotient, the even one at a tie. -/
def roundedQuotient (m d : Nat) : Nat :=
  if 2 * (m % d) < d then m / d
  else if 2 * (m % d) = d then m / d + m / d % 2
  else m / d + 1

theorem roundedQuotient_mul (m d : Nat) {c : Nat} (hc : 0 < c) : roundedQuotient (m * c) (d * c) = roundedQuotient m d := by
  have hlt : 2 * (m % d * c) < d * c ↔ 2 * (m % d) < d := by
    rw [← mul_assoc]
    exact Nat.mul_lt_mul_right hc
  have heq : 2 * (m % d * c) = d * c ↔ 2 * (m % d) = d := by
    rw [← mul_assoc]
    exact Nat.mul_left_inj (by omega)
  simp only [roundedQuotient, Nat.mul_div_mul_right m d hc, Nat.mul_mod_mul_right, hlt, heq]

theorem roundedQuotient_exact (q : Nat) {d : Nat} (hd : 0 < d) : roundedQuotient (q * d) d = q := by
  rw [roundedQuotient, Nat.mul_mod_left, Nat.mul_div_cancel q hd, if_pos (by omega)]

theorem div_le_roundedQuotient (m d : Nat) : m / d ≤ roundedQuotient m d ∧ roundedQuotient m d ≤ m / d + 1 := by
  unfold roundedQuotient
  split
  · omega
  · split <;> omega

/-- The whole number of 53 binary digits and zeros after them that is nearest to a whole number. -/
def nearestNat (n : Nat) : Nat := roundedQuotient n (2 ^ (n.log2 - 52)) * 2 ^ (n.log2 - 52)

/-- The same with a sign. -/
def nearest (n : Int) : Int := if n < 0 then -(nearestNat n.natAbs : Int) else nearestNat n.natAbs

theorem nearestNat_small {n : Nat} (h : n < 2 ^ 53) : nearestNat n = n := by
  have hunit : n.log2 - 52 = 0 := by
    by_cases hn : n = 0
    · simp [hn]
    · have := (Nat.log2_lt hn).2 h
      omega
  have hone := roundedQuotient_exact n Nat.one_pos
  rw [Nat.mul_one] at hone
  rw [nearestNat, hunit, Nat.pow_zero, hone, Nat.mul_one]

theorem le_nearestNat {n : Nat} (h : 2 ^ 53 ≤ n) : 2 ^ 53 ≤ nearestNat n := by
  have hlog := (Nat.le_log2 (by omega)).2 h
  obtain ⟨k, hk⟩ : ∃ k, n.log2 = 52 + k := ⟨n.log2 - 52, by omega⟩
  have hunit : n.log2 - 52 = k := by omega
  have hquotient : 2 ^ 52 ≤ n / 2 ^ k := by
    rw [Nat.le_div_iff_mul_le (Nat.two_pow_pos k), ← pow_add, ← hk]
    exact Nat.log2_self_le (by omega)
  rw [nearestNat, hunit, show 53 = 52 + 1 from rfl, pow_add]
  exact Nat.mul_le_mul (hquotient.trans (div_le_roundedQuotient n _).1) (Nat.pow_le_pow_right (by decide) (by omega))

theorem nearest_small {n : Int} (h : n.natAbs < 2 ^ 53) : nearest n = n := by
  rw [nearest, nearestNat_small h]
  omega

/-- Of at most 53 digits no two whole numbers have the same nearest one, and no longer one has that of a shorter one. -/
theorem nearest_inj {m n : Int} (h : m.natAbs < 2 ^ 53 ∨ n.natAbs < 2 ^ 53) : nearest m = nearest n ↔ m = n := by
  have hlarge {m n : Int} (hm : m.natAbs < 2 ^ 53) : nearest m = nearest n ↔ m = n := by
    by_cases hn : n.natAbs < 2 ^ 53
    · rw [nearest_small hm, nearest_small hn]
    · have hle := le_nearestNat (not_lt.1 hn)
      rw [nearest_small hm, nearest]
      omega
  rcases h with hm | hn
  · exact hlarge hm
  · rw [eq_comm, hlarge hn, eq_comm]

/-! ## Shifts -/

/-- What is left of a significand after a shift: the quotient, and where the remainder lies between nothing, half a unit and one. -/
structure Shifted (em : ExtendedMantissa) (m k : Nat) : Prop where
  mantissa : em.mantissa = m / 2 ^ k
  round : em.roundBit = true ↔ 2 ^ k ≤ 2 * (m % 2 ^ k)
  sticky : em.stickyBit = true ↔ 2 * (m % 2 ^ k) % 2 ^ k ≠ 0

theorem shifted_none (m : Nat) : Shifted ⟨m, false, false⟩ m 0 := ⟨by simp, by simp [Nat.mod_one], by simp [Nat.mod_one]⟩

theorem Shifted.shiftRightOne {em : ExtendedMantissa} {m k : Nat} (h : Shifted em m k) : Shifted em.shiftRightOne m (k + 1) := by
  have hunit : 0 < 2 ^ k := Nat.two_pow_pos k
  have hrest : m % 2 ^ k < 2 ^ k := Nat.mod_lt m hunit
  have hsplit : m % 2 ^ (k + 1) = m % 2 ^ k + 2 ^ k * (m / 2 ^ k % 2) := by rw [pow_succ, Nat.mod_mul]
  have hpow : 2 ^ (k + 1) = 2 * 2 ^ k := by rw [pow_succ, Nat.mul_comm]
  refine ⟨?_, ?_, ?_⟩
  · rw [ExtendedMantissa.shiftRightOne, h.mantissa, Nat.div_div_eq_div_mul, ← pow_succ]
  · rw [ExtendedMantissa.shiftRightOne, h.mantissa, hsplit, hpow, bne_iff_ne]
    rcases Nat.mod_two_eq_zero_or_one (m / 2 ^ k) with hbit | hbit <;> rw [hbit] <;> omega
  · have hmod : 2 * (m % 2 ^ (k + 1)) % 2 ^ (k + 1) = 2 * (m % 2 ^ k) := by
      rw [hsplit, Nat.mul_add, ← Nat.mul_assoc, ← hpow, Nat.add_mul_mod_self_left, Nat.mod_eq_of_lt (by omega)]
    rw [ExtendedMantissa.shiftRightOne, Bool.or_eq_true, h.round, h.sticky, hmod]
    by_cases hhalf : 2 ^ k ≤ 2 * (m % 2 ^ k)
    · exact ⟨fun _ => by omega, fun _ => .inl hhalf⟩
    · have hself : 2 * (m % 2 ^ k) % 2 ^ k = 2 * (m % 2 ^ k) := Nat.mod_eq_of_lt (by omega)
      rw [hself]
      omega

theorem shifted_shiftRight (m k : Nat) : Shifted ((⟨m, false, false⟩ : ExtendedMantissa) >>> k) m k := by
  induction k with
  | zero => exact shifted_none m
  | succ k ih => exact ih.shiftRightOne

theorem Shifted.roundedMantissa {em : ExtendedMantissa} {m k : Nat} (h : Shifted em m k) :
    em.roundedMantissa = roundedQuotient m (2 ^ k) := by
  have hrest : m % 2 ^ k < 2 ^ k := Nat.mod_lt m (Nat.two_pow_pos k)
  obtain ⟨q, round, sticky⟩ := em
  obtain ⟨rfl, hround, hsticky⟩ := h
  dsimp only at hround hsticky
  have hmod : 2 * (m % 2 ^ k) % 2 ^ k = if 2 ^ k ≤ 2 * (m % 2 ^ k) then 2 * (m % 2 ^ k) - 2 ^ k else 2 * (m % 2 ^ k) := by
    split
    · rw [Nat.mod_eq_sub_mod ‹_›, Nat.mod_eq_of_lt (by omega)]
    · rw [Nat.mod_eq_of_lt (by omega)]
  rw [hmod] at hsticky
  unfold roundedQuotient
  cases round <;> cases sticky <;> simp only [Bool.false_eq_true, false_iff, true_iff, not_le] at hround hsticky <;>
    simp only [ExtendedMantissa.roundedMantissa, ExtendedMantissa.accuracy, UnpackedFloat.Accuracy.roundToNearestEven] <;>
    grind

/-! ## Numbers with a full significand -/

/-- The number `± q * 2 ^ e` whose significand has 53 digits. -/
structure Normal (u : UnpackedFloat) (s : Sign) (q : Nat) (e : Int) : Prop where
  unpacked : ∃ h, u = .finite s q e h
  lower : 2 ^ 52 ≤ q
  upper : q < 2 ^ 53
  least : -1074 ≤ e

theorem normal_finite (s : Sign) {q : Nat} {e : Int} (lower : 2 ^ 52 ≤ q) (upper : q < 2 ^ 53) (least : -1074 ≤ e) :
    Normal (.finite s q e (by omega)) s q e := ⟨⟨_, rfl⟩, lower, upper, least⟩

theorem log2_of_normal {q : Nat} (lower : 2 ^ 52 ≤ q) (upper : q < 2 ^ 53) : q.log2 = 52 :=
  (Nat.log2_eq_iff (by omega)).2 ⟨lower, upper⟩

theorem targetExponent_eq (m : Nat) (e : Int) :
    Format.binary64.targetExponent (totalExponent m e) = max (m.log2 + e - 52) (-1074) := by
  have hbits : Format.binary64.mantissaBits = 53 := rfl
  have hleast : Format.binary64.minExponent = -1074 := by decide
  rw [Format.targetExponent, totalExponent, hbits, hleast]
  congr 1
  push_cast
  ring

theorem shiftToTargetExponent_eq {m k : Nat} {e : Int} (hk : max (m.log2 + e - 52) (-1074) = e + k) :
    shiftToTargetExponent .binary64 m e .exact = ((⟨m, false, false⟩ : ExtendedMantissa) >>> k, e + k) := by
  have hshift : (e + k - e).toNat = k := by omega
  rw [shiftToTargetExponent, targetExponent_eq, hk, UnpackedFloat.shiftToExponent, hshift]
  rfl

/-- A significand of more than 53 digits is cut to 53, and once more if it is rounded up to a power of two. -/
theorem roundWithAccuracy_normal (s : Sign) {m k : Nat} {e : Int} (hm : m.log2 = 52 + k) (he : -1074 ≤ e + k) :
    ∃ q f, Normal (roundWithAccuracy .binary64 s m e .exact) s q f ∧ e + k ≤ f ∧ f ≤ e + k + 1 ∧
      q * 2 ^ (f - (e + k)).toNat = roundedQuotient m (2 ^ k) := by
  have hne : m ≠ 0 := by
    rintro rfl
    simp at hm
    omega
  have hlow : 2 ^ 52 ≤ m / 2 ^ k := by
    rw [Nat.le_div_iff_mul_le (Nat.two_pow_pos k), ← pow_add, ← hm]
    exact Nat.log2_self_le hne
  have hhigh : m / 2 ^ k < 2 ^ 53 := by
    rw [Nat.div_lt_iff_lt_mul (Nat.two_pow_pos k), ← pow_add, show 53 + k = m.log2 + 1 by omega]
    exact Nat.lt_log2_self
  obtain ⟨hle, hge⟩ := div_le_roundedQuotient m (2 ^ k)
  have hfirst := shiftToTargetExponent_eq (m := m) (k := k) (e := e) (by omega)
  have hrounded := (shifted_shiftRight m k).roundedMantissa
  -- Rounding may give the next power of two, which has one digit too many.
  by_cases hfits : roundedQuotient m (2 ^ k) < 2 ^ 53
  · have hlog := log2_of_normal (by omega) hfits
    have hsecond := shiftToTargetExponent_eq (m := roundedQuotient m (2 ^ k)) (k := 0) (e := e + k) (by omega)
    refine ⟨roundedQuotient m (2 ^ k), e + k, ⟨?_, by omega, hfits, he⟩, le_rfl, by omega, by simp⟩
    have hmantissa := (shifted_shiftRight (roundedQuotient m (2 ^ k)) 0).mantissa
    rw [Nat.pow_zero, Nat.div_one] at hmantissa
    refine ⟨by omega, ?_⟩
    simp only [roundWithAccuracy, hfirst, hrounded, hsecond, hmantissa]
    rw [dif_neg (by omega)]
    simp
  · have hfull : roundedQuotient m (2 ^ k) = 2 ^ 53 := by omega
    have hsecond := shiftToTargetExponent_eq (m := 2 ^ 53) (k := 1) (e := e + k) (by rw [Nat.log2_two_pow]; omega)
    refine ⟨2 ^ 52, e + k + 1, ⟨?_, le_rfl, by decide, by omega⟩, by omega, le_rfl, ?_⟩
    · have hmantissa := (shifted_shiftRight (2 ^ 53) 1).mantissa
      refine ⟨by decide, ?_⟩
      simp only [roundWithAccuracy, hfirst, hrounded, hfull, hsecond, hmantissa]
      rfl
    · rw [hfull, show (e + k + 1 - (e + k)).toNat = 1 by omega]
      rfl

/-- A whole number becomes the nearest one of 53 significant digits. -/
theorem round_whole (s : Sign) {n : Nat} (hn : n ≠ 0) :
    ∃ q f, Normal (roundWithAccuracy .binary64 s (n * 2 ^ 53) (-53) .exact) s q f ∧ n.log2 ≤ f + 52 ∧
      f + 52 ≤ n.log2 + 1 ∧ q * 2 ^ (f + 53).toNat = nearestNat n * 2 ^ 53 := by
  have hlog : (n * 2 ^ 53).log2 = 52 + (n.log2 + 1) := by
    rw [Nat.log2_eq_iff (by simpa using hn)]
    have hlow := Nat.log2_self_le hn
    have hhigh := Nat.lt_log2_self (n := n)
    constructor
    · calc 2 ^ (52 + (n.log2 + 1)) = 2 ^ n.log2 * 2 ^ 53 := by ring
        _ ≤ n * 2 ^ 53 := Nat.mul_le_mul_right _ hlow
    · calc n * 2 ^ 53 < 2 ^ (n.log2 + 1) * 2 ^ 53 := Nat.mul_lt_mul_of_pos_right hhigh (by decide)
        _ = 2 ^ (52 + (n.log2 + 1) + 1) := by ring
  obtain ⟨q, f, hnormal, hle, hge, hq⟩ := roundWithAccuracy_normal s (e := -53) hlog (by omega)
  refine ⟨q, f, hnormal, by omega, by omega, ?_⟩
  have hquotient : roundedQuotient (n * 2 ^ 53) (2 ^ (n.log2 + 1)) * 2 ^ (n.log2 + 1) = nearestNat n * 2 ^ 53 := by
    by_cases hlarge : 52 ≤ n.log2
    · have hunit : 2 ^ (n.log2 + 1) = 2 ^ (n.log2 - 52) * 2 ^ 53 := by
        rw [← pow_add]
        congr 1
        omega
      rw [hunit, roundedQuotient_mul _ _ (by decide), nearestNat, mul_assoc]
    · have hwhole : n * 2 ^ 53 = n * 2 ^ (52 - n.log2) * 2 ^ (n.log2 + 1) := by
        rw [mul_assoc, ← pow_add]
        congr 2
        omega
      rw [nearestNat_small ((Nat.log2_lt hn).1 (by omega)), hwhole, roundedQuotient_exact _ (Nat.two_pow_pos _)]
  rw [← hquotient, ← hq, mul_assoc, ← pow_add]
  congr 2
  omega

/-! ## Packed numbers -/

section Packed

open Float.Model.UnpackedFloat (packComponents unpackMantissa_packComponents unpackExponent_packComponents unpackSign_packComponents)

theorem unpack_pack_infinity (s : Sign) : (pack (.infinity s)).unpack = .infinity s := by
  cases s <;> rfl

theorem unpack_pack_zero (s : Sign) : (pack (.zero s)).unpack = .zero s := by
  cases s <;> rfl

/-- The leading digit of a full significand is not stored. -/
theorem toNat_significand {q : Nat} (lower : 2 ^ 52 ≤ q) (upper : q < 2 ^ 53) : (1#1 ++ BitVec.ofNat 52 q).toNat = q := by
  have hstored : (BitVec.ofNat 52 q).toNat = q - 2 ^ 52 := by
    rw [BitVec.toNat_ofNat, Nat.mod_eq_sub_mod lower, Nat.mod_eq_of_lt (by omega)]
  have hone : (1#1).toNat <<< 52 = 2 ^ 52 := by decide
  rw [BitVec.toNat_append, ← Nat.shiftLeft_add_eq_or_of_lt (BitVec.isLt _), hstored, hone]
  omega

/-- A number whose exponent is too large is packed as an infinity, and any other as it is. -/
theorem Normal.unpack_pack {u : UnpackedFloat} {s : Sign} {q : Nat} {e : Int} (h : Normal u s q e) :
    (pack u).unpack = if e ≤ 971 then u else .infinity s := by
  obtain ⟨⟨hpos, rfl⟩, lower, upper, least⟩ := h
  have hlog := log2_of_normal lower upper
  obtain ⟨biased, hbiased⟩ : ∃ b : Nat, (b : Int) = e + 1075 := ⟨(e + 1075).toNat, by omega⟩
  have hbias : (e + Format.binary64.exponentBias + Format.binary64.mantissaBitsWithoutImplicit).toNat = biased := by
    have h1023 : (Format.binary64.exponentBias : Int) = 1023 := rfl
    have h52 : (Format.binary64.mantissaBitsWithoutImplicit : Int) = 52 := rfl
    omega
  have hpack : (pack (.finite s q e hpos)).toBits.toBitVec =
      if 2 ^ 11 ≤ biased + 1 then UnpackedFloat.packedInfinity .binary64 s
      else packComponents .binary64 s (BitVec.ofNat 11 biased) (BitVec.ofNat 52 q) := by
    have hbits : q.log2 + 1 = Format.binary64.mantissaBits := by rw [hlog]; rfl
    change UnpackedFloat.pack .binary64 (.finite s q e hpos) = _
    simp only [UnpackedFloat.pack, hbias, hbits, if_true]
  by_cases hfits : e ≤ 971
  · have hnat : (BitVec.ofNat 11 biased).toNat = biased := by
      rw [BitVec.toNat_ofNat, Nat.mod_eq_of_lt (by omega)]
    -- An exponent of all ones stands for an infinity or for no number, and one of all zeros for a subnormal number.
    have hfinite : BitVec.ofNat 11 biased ≠ -1#11 := by
      rw [ne_eq, ← BitVec.toNat_inj, hnat]
      have hones : (-1#11).toNat = 2047 := by decide
      omega
    have hfull : BitVec.ofNat 11 biased ≠ 0#11 := by
      rw [ne_eq, ← BitVec.toNat_inj, hnat]
      have hnone : (0#11).toNat = 0 := rfl
      omega
    have hexponent : (biased : Int) - (Format.binary64.exponentBias + Format.binary64.mantissaBitsWithoutImplicit) = e := by
      have h1023 : (Format.binary64.exponentBias : Int) = 1023 := rfl
      have h52 : (Format.binary64.mantissaBitsWithoutImplicit : Int) = 52 := rfl
      omega
    rw [if_neg (by omega)] at hpack
    rw [if_pos hfits, Float.Model.unpack, hpack]
    simp only [UnpackedFloat.unpack, unpackMantissa_packComponents, unpackExponent_packComponents, unpackSign_packComponents,
      Sign.ofBitVec_toBitVec, if_neg hfinite, if_neg hfull, hnat, hexponent, toNat_significand lower upper]
  · rw [if_pos (by omega)] at hpack
    rw [if_neg hfits, Float.Model.unpack, hpack]
    exact unpack_pack_infinity s

end Packed

end SqlTemplate.Number
