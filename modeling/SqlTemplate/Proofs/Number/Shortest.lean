import SqlTemplate.Proofs.Json.Integer

/-! # The shortest digits of a number

A finite number has at most 53 binary digits, so that the numbers that round to it lie further apart than two neighbours on the grid of
seventeen decimal digits. One of the neighbours is found, and it is not zero.
-/

namespace SqlTemplate.Number

open Float.Model

variable {m num den : Nat} {e : Int} {tie : Tie}

/-! ## Places -/

/-- The number is not below the first place that its digits have. -/
theorem pointOf_le (hnum : 0 < num) (hden : 0 < den) :
    den * 10 ^ (pointOf num den - 1).toNat ≤ num * 10 ^ (1 - pointOf num den).toNat := by
  unfold pointOf
  split
  · rename_i hle
    have hquotient : 0 < num / den := Nat.div_pos hle hden
    obtain ⟨k, hk⟩ := Nat.exists_eq_add_of_lt (Nat.length_toDigits_pos (b := 10) (n := num / den))
    -- The quotient has more than `k` digits.
    have hbound : 10 ^ k ≤ num / den := by
      by_contra hlt
      rcases Nat.eq_zero_or_pos k with rfl | hpos
      · omega
      · have := (Nat.length_toDigits_le_iff (by decide) hpos).2 (not_le.1 hlt)
        omega
    have hplace : (((Nat.toDigits 10 (num / den)).length : Int) - 1).toNat = k := by omega
    have hbelow : (1 - ((Nat.toDigits 10 (num / den)).length : Int)).toNat = 0 := by omega
    rw [hplace, hbelow, Nat.pow_zero, Nat.mul_one, Nat.mul_comm]
    exact (Nat.le_div_iff_mul_le hden).1 hbound
  · have hlength := Nat.length_toDigits_pos (b := 10) (n := (den - 1) / num)
    have hbound := (Nat.length_toDigits_le_iff (n := (den - 1) / num) (by decide : 1 < 10) hlength).1 le_rfl
    generalize (Nat.toDigits 10 ((den - 1) / num)).length = k at hlength hbound ⊢
    have hplace : (1 - (k : Int) - 1).toNat = 0 := by omega
    have hbelow : (1 - (1 - (k : Int))).toNat = k := by omega
    rw [hplace, hbelow, Nat.pow_zero, Nat.mul_one]
    have hlt := (Nat.div_lt_iff_lt_mul hnum).1 hbound
    rw [Nat.mul_comm] at hlt
    omega

/-! ## Grids -/

/-- Of the two neighbours on a grid that is finer than the interval is wide, one is in the interval. -/
theorem nearestOnGrid_isSome {i : Interval} {scale : Int} (hlow : i.low ≤ i.mid) (hhigh : i.mid < i.high) (hden : 0 < i.den)
    (hfine : i.den * tens scale.toNat + i.low * tens (-scale).toNat < i.high * tens (-scale).toNat) :
    (nearestOnGrid tie i scale).isSome = true := by
  have hgrid : 0 < i.den * tens scale.toNat := Nat.mul_pos hden (Nat.pow_pos (by decide))
  have hlow := Nat.mul_le_mul_right (tens (-scale).toNat) hlow
  have hhigh := Nat.mul_lt_mul_of_pos_right hhigh (show 0 < tens (-scale).toNat from Nat.pow_pos (by decide))
  unfold nearestOnGrid
  dsimp only
  generalize i.den * tens scale.toNat = grid at hgrid hfine ⊢
  generalize i.low * tens (-scale).toNat = low at hlow hfine ⊢
  generalize i.mid * tens (-scale).toNat = mid at hlow hhigh ⊢
  generalize i.high * tens (-scale).toNat = high at hhigh hfine ⊢
  have hlower : mid / grid * grid ≤ mid := Nat.div_mul_le_self mid grid
  have hupper : mid < (mid / grid + 1) * grid := (Nat.div_lt_iff_lt_mul hgrid).1 (Nat.lt_succ_self _)
  have hstep : (mid / grid + 1) * grid = mid / grid * grid + grid := Nat.succ_mul _ _
  split
  · rfl
  · rfl
  · rfl
  · rename_i hbelow habove
    exfalso
    cases hclosed : i.closed <;> simp [hclosed] at hbelow habove <;> omega

theorem low_le_nearestOnGrid {i : Interval} {scale : Int} {c : Nat} (h : nearestOnGrid tie i scale = some c) :
    i.low * tens (-scale).toNat ≤ c * (i.den * tens scale.toNat) := by
  have hlow (low point high : Nat) (h : (if i.closed then decide (low ≤ point) && decide (point ≤ high)
      else decide (low < point) && decide (point < high)) = true) : low ≤ point := by
    cases hclosed : i.closed <;> simp [hclosed] at h <;> omega
  unfold nearestOnGrid at h
  dsimp only at h
  split at h
  · rename_i hlower hupper
    rcases ite_eq_iff.1 (Option.some.inj h) with ⟨-, rfl⟩ | ⟨-, rfl⟩
    · exact hlow _ _ _ hlower
    · exact hlow _ _ _ hupper
  · rename_i hlower hupper
    cases h
    exact hlow _ _ _ hlower
  · rename_i hlower hupper
    cases h
    exact hlow _ _ _ hupper
  · cases h

/-- A point of the grid that is in an interval above zero is not zero. -/
theorem nearestOnGrid_pos {i : Interval} {scale : Int} {c : Nat} (hlow : 0 < i.low) (h : nearestOnGrid tie i scale = some c) : 0 < c := by
  have hbelow := Nat.mul_pos hlow (show 0 < tens (-scale).toNat from Nat.pow_pos (by decide))
  rcases Nat.eq_zero_or_pos c with rfl | hpos
  · have hle := low_le_nearestOnGrid h
    omega
  · exact hpos

/-- The interval of a number of 53 binary digits, beside the number. -/
theorem interval_parts (hm : 0 < m) (hm' : m < 2 ^ 53) (e : Int) :
    0 < (interval m e).low ∧ (interval m e).low ≤ (interval m e).mid ∧ (interval m e).mid < (interval m e).high ∧
      0 < (interval m e).den ∧ (interval m e).mid + 10 ^ 16 * (interval m e).low < 10 ^ 16 * (interval m e).high := by
  have hup : 0 < 2 ^ (e - 2).toNat := Nat.two_pow_pos _
  have hdown : 0 < 2 ^ (2 - e).toNat := Nat.two_pow_pos _
  -- A power of two has a nearer neighbour below.
  obtain ⟨below, hbelow, hinterval⟩ : ∃ below, (below = 2 ∨ below = 1 ∧ m = 2 ^ 52) ∧ interval m e =
      ⟨(4 * m - below) * 2 ^ (e - 2).toNat, 4 * m * 2 ^ (e - 2).toNat, (4 * m + 2) * 2 ^ (e - 2).toNat, 2 ^ (2 - e).toNat, m % 2 == 0⟩ := by
    simp only [interval, Nat.shiftLeft_eq, Nat.one_mul]
    split
    · rename_i hpower
      exact ⟨1, .inr ⟨rfl, hpower.1⟩, rfl⟩
    · exact ⟨2, .inl rfl, rfl⟩
  rw [hinterval]
  dsimp only
  have hlow : 4 * m - below + below = 4 * m := by omega
  have hwide : 4 * m + 10 ^ 16 * (4 * m - below) < 10 ^ 16 * (4 * m + 2) := by omega
  refine ⟨Nat.mul_pos (by omega) hup, Nat.mul_le_mul_right _ (by omega), Nat.mul_lt_mul_of_pos_right (by omega) hup, hdown, ?_⟩
  rw [← Nat.mul_assoc, ← Nat.mul_assoc, ← Nat.add_mul]
  exact Nat.mul_lt_mul_of_pos_right hwide hup

/-- The grid of seventeen digits is finer than the interval is wide. -/
theorem interval_wide {i : Interval} (hmid : 0 < i.mid) (hden : 0 < i.den) (hwide : i.mid + 10 ^ 16 * i.low < 10 ^ 16 * i.high) :
    i.den * tens (pointOf i.mid i.den - 17).toNat + i.low * tens (-(pointOf i.mid i.den - 17)).toNat <
      i.high * tens (-(pointOf i.mid i.den - 17)).toNat := by
  have hpoint := pointOf_le hmid hden
  generalize pointOf i.mid i.den = p at hpoint ⊢
  obtain ⟨a, ha⟩ : ∃ a, (p - 17).toNat = a := ⟨_, rfl⟩
  obtain ⟨b, hb⟩ : ∃ b, (-(p - 17)).toNat = b := ⟨_, rfl⟩
  obtain ⟨y, hy⟩ : ∃ y, (1 - p).toNat = y := ⟨_, rfl⟩
  have hplaces : (p - 1).toNat + b = a + 16 + y := by omega
  -- A step of the grid is at most the number over `10 ^ 16`.
  have hstep : i.den * 10 ^ a * 10 ^ 16 ≤ i.mid * 10 ^ b := by
    refine Nat.le_of_mul_le_mul_right ?_ (Nat.pow_pos (n := y) (by decide : 0 < 10))
    calc i.den * 10 ^ a * 10 ^ 16 * 10 ^ y = i.den * 10 ^ (p - 1).toNat * 10 ^ b := by
          rw [Nat.mul_assoc, Nat.mul_assoc, ← Nat.pow_add, ← Nat.pow_add, Nat.mul_assoc, ← Nat.pow_add, hplaces, Nat.add_assoc]
      _ ≤ i.mid * 10 ^ y * 10 ^ b := Nat.mul_le_mul_right _ (hy ▸ hpoint)
      _ = i.mid * 10 ^ b * 10 ^ y := Nat.mul_right_comm _ _ _
  have hscaled := Nat.mul_lt_mul_of_pos_right hwide (Nat.pow_pos (n := b) (by decide : 0 < 10))
  rw [Nat.add_mul, Nat.mul_assoc, Nat.mul_assoc] at hscaled
  rw [ha, hb]
  change i.den * 10 ^ a + i.low * 10 ^ b < i.high * 10 ^ b
  omega

theorem shortestFrom_pos {i : Interval} {point : Int} (hlow : 0 < i.low) {fuel tried : Nat}
    (h : ∃ k < fuel, (nearestOnGrid tie i (point - (tried + k : Nat))).isSome = true) : 0 < (shortestFrom tie i point fuel tried).1 := by
  induction fuel generalizing tried with
  | zero =>
    obtain ⟨k, hk, -⟩ := h
    omega
  | succ fuel ih =>
    rw [shortestFrom]
    split
    · rename_i c hc
      exact nearestOnGrid_pos hlow hc
    · rename_i hnone
      refine ih ?_
      obtain ⟨k, hk, hsome⟩ := h
      cases k with
      | zero => simp [hnone] at hsome
      | succ k => exact ⟨k, by omega, by rwa [Nat.add_assoc, Nat.add_comm 1 k]⟩

theorem shortest_digits_ne_nil (tie : Tie) (hm : 0 < m) (hm' : m < 2 ^ 53) (e : Int) : (shortest tie m e).digits ≠ [] := by
  obtain ⟨hlow, hmid, hhigh, hden, hwide⟩ := interval_parts hm hm' e
  have hpos : 0 < (shortestFrom tie (interval m e) (pointOf (interval m e).mid (interval m e).den) 17 1).1 :=
    shortestFrom_pos hlow ⟨16, by decide, nearestOnGrid_isSome hmid hhigh hden (interval_wide (by omega) hden hwide)⟩
  have hhead := Json.head?_toDigits hpos
  unfold shortest
  dsimp only
  rw [ne_eq, List.reverse_eq_nil_iff, List.dropWhile_eq_nil_iff]
  intro hzeros
  obtain ⟨c, cs, hdigits, -⟩ := Expr.exists_toDigits
    (shortestFrom tie (interval m e) (pointOf (interval m e).mid (interval m e).den) 17 1).1
  rw [hdigits, List.head?_cons] at hhead
  have hc := hzeros c (by simp [hdigits])
  exact hhead (congrArg some (beq_iff_eq.1 hc))

/-- The significand of a finite number has at most 53 binary digits. -/
theorem mantissa_lt {x : Float.Model} {s : UnpackedFloat.Sign} {hm : 0 < m} (h : x.unpack = .finite s m e hm) : m < 2 ^ 53 := by
  unfold Float.Model.unpack UnpackedFloat.unpack at h
  dsimp only at h
  split at h
  · split at h <;> cases h
  · split at h
    · split at h
      · cases h
      · cases h
        exact lt_trans (BitVec.isLt _) (by decide)
    · cases h
      exact BitVec.isLt _

end SqlTemplate.Number
