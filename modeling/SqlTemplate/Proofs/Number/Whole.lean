import SqlTemplate.Proofs.Number.Rounding

/-! # Whole numbers as floating-point numbers

A whole number becomes the nearest floating-point number. Two of them become equal ones exactly if their nearest numbers are the same,
and one that is beyond all integers of 64 bits stays beyond them.
-/

namespace SqlTemplate.Number

open Float.Model
open Float.Model.UnpackedFloat (Sign roundWithAccuracy)

/-! ## Lower bounds -/

/-- On the side of the sign and at least `2 ^ t` in size, perhaps infinite. -/
def Beyond (u : UnpackedFloat) (s : Sign) (t : Int) : Prop := u = .infinity s ∨ ∃ q e, Normal u s q e ∧ t ≤ e + 52

section Beyond

variable {u v : UnpackedFloat} {r s : Sign} {t d : Int}

theorem Beyond.mono (h : Beyond u s t) (hle : d ≤ t) : Beyond u s d :=
  h.imp_right fun ⟨q, e, hnormal, hbound⟩ => ⟨q, e, hnormal, hle.trans hbound⟩

theorem Beyond.unpack_pack (h : Beyond u s t) : Beyond (pack u).unpack s t := by
  rcases h with rfl | ⟨q, e, hnormal, hbound⟩
  · exact .inl (unpack_pack_infinity s)
  · rw [hnormal.unpack_pack]
    split
    · exact .inr ⟨q, e, hnormal, hbound⟩
    · exact .inl rfl

theorem Normal.neg {q : Nat} {e : Int} (h : Normal u s q e) : Normal u.neg (-s) q e := by
  obtain ⟨⟨hpos, rfl⟩, lower, upper, least⟩ := h
  exact normal_finite (-s) lower upper least

theorem Beyond.neg (h : Beyond u s t) : Beyond u.neg (-s) t := by
  rcases h with rfl | ⟨q, e, hnormal, hbound⟩
  · exact .inl rfl
  · exact .inr ⟨q, e, hnormal.neg, hbound⟩

theorem Normal.mul {q p : Nat} {e f : Int} (hu : Normal u r q e) (hv : Normal v s p f) (hleast : -1126 ≤ e + f) :
    Beyond (UnpackedFloat.mul .binary64 u v) (r * s) (e + f + 104) := by
  obtain ⟨⟨hq, rfl⟩, hlowq, hhighq, -⟩ := hu
  obtain ⟨⟨hp, rfl⟩, hlowp, hhighp, -⟩ := hv
  have hlow : 2 ^ 104 ≤ q * p := by
    rw [show 104 = 52 + 52 from rfl, pow_add]
    exact Nat.mul_le_mul hlowq hlowp
  have hlog := (Nat.le_log2 (by omega)).2 hlow
  obtain ⟨k, hk⟩ := Nat.exists_eq_add_of_le (show 52 ≤ (q * p).log2 by omega)
  obtain ⟨m, g, hnormal, hle, -, -⟩ := roundWithAccuracy_normal (r * s) (e := e + f) hk (by omega)
  exact .inr ⟨m, g, hnormal, by omega⟩

/-- Bounds multiply. -/
theorem Beyond.mul (hu : Beyond u r t) (hv : Beyond v s d) (hleast : 0 ≤ t + d) :
    Beyond (UnpackedFloat.mul .binary64 u v) (r * s) (t + d) := by
  rcases hu with rfl | ⟨q, e, hu, hbound⟩
  · rcases hv with rfl | ⟨p, f, ⟨⟨hp, rfl⟩, -, -, -⟩, -⟩
    · exact .inl rfl
    · exact .inl rfl
  · rcases hv with rfl | ⟨p, f, hv, hbound'⟩
    · obtain ⟨⟨hq, rfl⟩, -, -, -⟩ := hu
      exact .inl rfl
    · exact (hu.mul hv (by omega)).mono (by omega)

end Beyond

theorem log2_ten_pow {e : Nat} (he : 0 < e) : 3 ≤ (10 ^ e).log2 := by
  rw [Nat.le_log2 (by simp)]
  calc 2 ^ 3 ≤ 10 ^ 1 := by decide
    _ ≤ 10 ^ e := Nat.pow_le_pow_right (by decide) he

/-- What the digits of a whole number and zeros after them become. -/
theorem ofScientific_whole {m : Nat} (hm : m ≠ 0) (e : Nat) :
    UnpackedFloat.ofScientific .binary64 m e =
      if e ≤ 2048 then roundWithAccuracy .binary64 .positive (m * 10 ^ e * 2 ^ 53) (-53) .exact else .infinity .positive := by
  have hbits : Format.binary64.mantissaBits = 53 := rfl
  have hpow : (2 : Int) ^ Format.binary64.exponentBits = 2048 := by decide
  rw [UnpackedFloat.ofScientific, dif_neg hm, hpow]
  by_cases hsmall : e ≤ 2048
  · rw [if_neg (by omega), if_neg (by omega), if_pos (by omega), if_pos hsmall]
    simp only [UnpackedFloat.mul, hbits, Nat.shiftLeft_eq, Int.toNat_natCast]
    congr 1
    ring
  · rw [if_pos (by omega), if_neg hsmall]

theorem beyond_ofDecimal {m : Nat} (hm : m ≠ 0) (e : Nat) : Beyond (ofDecimal m e).toModel.unpack .positive (m * 10 ^ e).log2 := by
  refine Beyond.unpack_pack ?_
  rw [ofScientific_whole hm e]
  split
  · obtain ⟨q, f, hnormal, hle, -, -⟩ := round_whole .positive (n := m * 10 ^ e) (by simpa using hm)
    exact .inr ⟨q, f, hnormal, hle⟩
  · exact .inl rfl

/-! ## Signs -/

def signOf (negative : Bool) : Sign := if negative then .negative else .positive

theorem beyond_withSign {x : Float} {t : Int} (h : Beyond x.toModel.unpack .positive t) (negative : Bool) :
    Beyond (withSign negative x).toModel.unpack (signOf negative) t := by
  cases negative
  · exact h
  · exact h.neg.unpack_pack

/-! ## Back to integers -/

/-- What is beyond all integers of 64 bits is a whole number where it is finite. -/
theorem integer?_of_beyond {x : Float} {negative : Bool} (h : Beyond x.toModel.unpack (signOf negative) 63)
    (hfinite : x.isFinite = true) : ∃ k : Nat, 2 ^ 63 ≤ k ∧ integer? x = some (if negative then -(k : Int) else k) := by
  have hunpacked : x.toModel.unpack.isFinite = true := hfinite
  rcases h with h | ⟨q, e, ⟨⟨hpos, heq⟩, lower, upper, least⟩, hbound⟩
  · rw [h] at hunpacked
    cases hunpacked
  · refine ⟨q <<< e.toNat, ?_, ?_⟩
    · rw [Nat.shiftLeft_eq, show 63 = 52 + 11 from rfl, pow_add]
      exact Nat.mul_le_mul lower (Nat.pow_le_pow_right (by decide) (by omega))
    · rw [integer?, heq]
      dsimp only
      rw [if_pos (by omega)]
      cases negative <;> rfl

theorem clampInt64_of_le {n : Int} (h : 2 ^ 63 ≤ n) : clampInt64 n = Int64.maxValue := by
  rw [clampInt64, Int64.toInt_minValue, Int64.toInt_maxValue, if_neg (by omega), if_pos (by omega)]

theorem clampInt64_of_ge {n : Int} (h : n ≤ -2 ^ 63) : clampInt64 n = Int64.minValue := by
  rw [clampInt64, Int64.toInt_minValue, Int64.toInt_maxValue]
  split
  · rfl
  · obtain rfl : n = -2 ^ 63 := by omega
    rfl

theorem clampInt64_of_toInt64? {n : Int} {w : Int64} (h : toInt64? n = some w) : clampInt64 n = w := by
  unfold toInt64? at h
  split at h
  · rename_i hfits
    cases h
    rw [clampInt64, if_neg (by omega), if_neg (by omega)]
  · cases h

theorem toInt_clampInt64 (n : Int) : (clampInt64 n).toInt = max (-2 ^ 63) (min n (2 ^ 63 - 1)) := by
  unfold clampInt64
  rw [Int64.toInt_minValue, Int64.toInt_maxValue]
  split
  · rw [Int64.toInt_minValue]
    omega
  · split
    · rw [Int64.toInt_maxValue]
      omega
    · rw [Int64.toInt_ofInt_of_le (by omega) (by omega)]
      omega

/-! ## Equality -/

/-- The floating-point number is the whole number. Zero has either sign. -/
def IsWhole (u : UnpackedFloat) (n : Int) : Prop :=
  (n = 0 ∧ ∃ s, u = .zero s) ∨
    ∃ s q e, Normal u s q e ∧ (-53 ≤ e ∧ e ≤ 971) ∧ n * 2 ^ 53 = s.apply ((q * 2 ^ (e + 53).toNat : Nat) : Int)

theorem IsWhole.isFinite {u : UnpackedFloat} {n : Int} (h : IsWhole u n) : u.isFinite = true := by
  rcases h with ⟨-, s, rfl⟩ | ⟨s, q, e, ⟨⟨hpos, rfl⟩, -⟩, -⟩
  · rfl
  · rfl

theorem normal_unique {q p a b : Nat} (hq : 2 ^ 52 ≤ q ∧ q < 2 ^ 53) (hp : 2 ^ 52 ≤ p ∧ p < 2 ^ 53)
    (h : q * 2 ^ a = p * 2 ^ b) : a = b ∧ q = p := by
  have hlog {q : Nat} (hq : 2 ^ 52 ≤ q ∧ q < 2 ^ 53) (a : Nat) : (q * 2 ^ a).log2 = 52 + a := by
    rw [Nat.log2_eq_iff (by simp; omega)]
    constructor
    · rw [pow_add]
      exact Nat.mul_le_mul_right _ hq.1
    · rw [show 52 + a + 1 = 53 + a by omega, pow_add]
      exact Nat.mul_lt_mul_of_pos_right hq.2 (Nat.two_pow_pos a)
  have hab : a = b := by
    have hlogs := hlog hq a
    rw [h, hlog hp b] at hlogs
    omega
  subst hab
  exact ⟨rfl, Nat.eq_of_mul_eq_mul_right (Nat.two_pow_pos a) h⟩

theorem beq_finite {s t : Sign} {q p : Nat} {e f : Int} (hq : 0 < q) (hp : 0 < p) :
    (UnpackedFloat.finite s q e hq).beq (.finite t p f hp) = true ↔ s = t ∧ e = f ∧ q = p := by
  rw [UnpackedFloat.beq_iff_ne_notANumber_and_eq]
  simp [and_comm]

/-- Equality of floating-point numbers is that of the whole numbers. -/
theorem IsWhole.beq {u v : UnpackedFloat} {m n : Int} (hu : IsWhole u m) (hv : IsWhole v n) : u.beq v = true ↔ m = n := by
  have hpos {q : Nat} (hq : 2 ^ 52 ≤ q) (a : Nat) : 0 < q * 2 ^ a := Nat.mul_pos (by omega) (Nat.two_pow_pos a)
  rcases hu with ⟨rfl, s, rfl⟩ | ⟨s, q, e, ⟨⟨hq, rfl⟩, lowq, highq, -⟩, he, hm⟩ <;>
    rcases hv with ⟨rfl, t, rfl⟩ | ⟨t, p, f, ⟨⟨hp, rfl⟩, lowp, highp, -⟩, hf, hn⟩
  · exact iff_of_true rfl rfl
  · have := hpos lowp (f + 53).toNat
    cases t <;> simp only [Sign.apply] at hn <;> exact iff_of_false Bool.false_ne_true (by omega)
  · have := hpos lowq (e + 53).toNat
    cases s <;> simp only [Sign.apply] at hm <;> exact iff_of_false Bool.false_ne_true (by omega)
  · have hposq := hpos lowq (e + 53).toNat
    have hposp := hpos lowp (f + 53).toNat
    rw [beq_finite]
    constructor
    · rintro ⟨rfl, rfl, rfl⟩
      omega
    · rintro rfl
      rw [hm] at hn
      have hsame : s = t ∧ q * 2 ^ (e + 53).toNat = p * 2 ^ (f + 53).toNat := by
        cases s <;> cases t <;> simp only [Sign.apply] at hn <;> first | exact ⟨rfl, by omega⟩ | omega
      obtain ⟨hexponent, hsignificand⟩ := normal_unique ⟨lowq, highq⟩ ⟨lowp, highp⟩ hsame.2
      exact ⟨hsame.1, by omega, hsignificand⟩

theorem IsWhole.neg {u : UnpackedFloat} {n : Int} (h : IsWhole u n) : IsWhole u.neg (-n) := by
  rcases h with ⟨rfl, s, rfl⟩ | ⟨s, q, e, hnormal, he, hn⟩
  · exact .inl ⟨rfl, -s, rfl⟩
  · refine .inr ⟨-s, q, e, hnormal.neg, he, ?_⟩
    rw [Int.neg_mul, hn]
    cases s
    · exact Int.neg_neg _
    · rfl

theorem IsWhole.unpack_pack {u : UnpackedFloat} {n : Int} (h : IsWhole u n) : IsWhole (pack u).unpack n := by
  rcases h with ⟨rfl, s, rfl⟩ | ⟨s, q, e, hnormal, he, hn⟩
  · exact .inl ⟨rfl, s, unpack_pack_zero s⟩
  · rw [hnormal.unpack_pack, if_pos he.2]
    exact .inr ⟨s, q, e, hnormal, he, hn⟩

/-- A whole number below `2 ^ 64` becomes the nearest one of 53 significant digits. -/
theorem isWhole_ofDecimal {n : Nat} (h : n < 2 ^ 64) : IsWhole (ofDecimal n 0).toModel.unpack (nearestNat n) := by
  by_cases hn : n = 0
  · subst hn
    exact .inl ⟨rfl, .positive, rfl⟩
  · obtain ⟨q, e, hnormal, hlow, hhigh, hq⟩ := round_whole .positive hn
    have hlog := (Nat.log2_lt hn).2 h
    have hrounded := ofScientific_whole hn 0
    rw [if_pos (by omega), Nat.pow_zero, Nat.mul_one] at hrounded
    refine IsWhole.unpack_pack (.inr ⟨.positive, q, e, ?_, by omega, ?_⟩)
    · exact hrounded ▸ hnormal
    · rw [Sign.apply, hq]
      push_cast
      rfl

theorem isWhole_ofInt {n : Int} (h : n.natAbs < 2 ^ 64) : IsWhole (ofInt n).toModel.unpack (nearest n) := by
  have hwhole := isWhole_ofDecimal h
  by_cases hneg : n < 0
  · have hminus := hwhole.neg.unpack_pack
    rw [ofInt, decide_eq_true hneg, nearest, if_pos hneg]
    exact hminus
  · rw [ofInt, decide_eq_false hneg, nearest, if_neg hneg]
    exact hwhole

theorem ofInt_beq {m n : Int} (hm : m.natAbs < 2 ^ 64) (hn : n.natAbs < 2 ^ 64) :
    (ofInt m == ofInt n) = true ↔ nearest m = nearest n := (isWhole_ofInt hm).beq (isWhole_ofInt hn)

end SqlTemplate.Number
