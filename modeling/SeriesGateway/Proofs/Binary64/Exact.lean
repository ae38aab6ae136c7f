import Mathlib
import SeriesGateway.Binary64.Basic

namespace SeriesGateway.Binary64

/-- The number that a value is, if it is a number and finite. -/
def toRat? : Binary64 → Option ℚ
  | .nan => none
  | .signed negative m =>
    if m.isFinite then
      some ((if negative then -1 else 1) * (m.numerator / m.denominator))
    else none

theorem significands_eq : significands = 2 ^ 52 := by decide

theorem roundQuotient_one (n : Nat) : roundQuotient n 1 = n := by
  simp [roundQuotient, Nat.mod_one]

namespace Magnitude

/-- The bits of a full significand in its place are read back as that significand. -/
theorem fields_of_full {m : Magnitude} {place s : Nat} (hlow : 2 ^ 52 ≤ s) (hhigh : s < 2 ^ 53)
    (hbits : m.bits = place * significands + s) :
    m.significand = s ∧ m.power = (place : Int) - 1074 := by
  rw [significands_eq] at hbits
  have hquotient : m.bits / 2 ^ 52 = place + 1 := by omega
  have hremainder : m.bits % 2 ^ 52 = s - 2 ^ 52 := by omega
  have hnormal : ¬m.bits < 2 ^ 52 := by omega
  refine ⟨?_, ?_⟩
  · rw [significand, significands_eq, if_neg hnormal, hremainder]
    omega
  · rw [power, significands_eq, if_neg hnormal, hquotient]
    omega

theorem binaryOrder_one {n : Nat} (h : n ≠ 0) : binaryOrder n 1 = n.log2 := by
  have hself : ¬n < 2 ^ n.log2 := Nat.not_lt.2 (Nat.log2_self_le h)
  have hone : Nat.log2 1 = 0 := by decide
  simp only [binaryOrder, hone, Nat.cast_zero, sub_zero, Int.toNat_natCast, Nat.one_shiftLeft,
    Int.toNat_neg_natCast, Nat.shiftLeft_zero]
  rw [if_neg hself]

/-- An integer of at most 53 bits is its own rounding: scaled up to a full significand, it leaves
nothing to round. -/
theorem nearest_of_lt {n : Nat} (hne : n ≠ 0) (h : n < 2 ^ 53) :
    (nearest n 1).isFinite = true ∧
      (nearest n 1).numerator = n * (nearest n 1).denominator := by
  have hlog : n.log2 < 53 := (Nat.log2_lt hne).2 h
  obtain ⟨e, he⟩ : ∃ e, 52 = n.log2 + e := ⟨52 - n.log2, by omega⟩
  have hlow : 2 ^ 52 ≤ n * 2 ^ e := by
    rw [he, Nat.pow_add]
    exact Nat.mul_le_mul_right _ (Nat.log2_self_le hne)
  have hhigh : n * 2 ^ e < 2 ^ 53 := by
    have : 2 ^ 53 = 2 ^ (n.log2 + 1) * 2 ^ e := by
      rw [← Nat.pow_add]
      congr 1
      omega
    rw [this]
    exact Nat.mul_lt_mul_of_pos_right Nat.lt_log2_self (Nat.two_pow_pos e)
  have hbits : (nearest n 1).bits = (1074 - e) * significands + n * 2 ^ e := by
    have hpower : max ((n.log2 : Int) - 52) (-1074) = -(e : Int) := by omega
    have hplace : (-(e : Int) + 1074).toNat = 1074 - e := by omega
    rw [nearest, if_neg hne, binaryOrder_one hne]
    simp only [hpower, hplace, neg_neg, Int.toNat_natCast, Int.toNat_neg_natCast,
      Nat.shiftLeft_eq, Nat.pow_zero, Nat.mul_one, roundQuotient_one, ofBits]
    apply Nat.min_eq_left
    rw [infiniteBits, significands_eq]
    omega
  obtain ⟨hsignificand, hpower⟩ := fields_of_full hlow hhigh hbits
  have hplace : ((1074 - e : Nat) : Int) - 1074 = -(e : Int) := by omega
  rw [hplace] at hpower
  refine ⟨?_, ?_⟩
  · rw [isFinite, hbits, infiniteBits, significands_eq]
    exact decide_eq_true (by omega)
  · rw [numerator, denominator, hsignificand, hpower]
    simp [Nat.shiftLeft_eq]

theorem nearest_two_pow : (nearest (2 ^ 53) 1).isFinite = true ∧
    (nearest (2 ^ 53) 1).numerator = 2 ^ 53 * (nearest (2 ^ 53) 1).denominator := by
  decide +kernel

theorem ofNat_exact {n : Nat} (h : n ≤ 2 ^ 53) :
    (ofNat n).isFinite = true ∧ (ofNat n).numerator = n * (ofNat n).denominator := by
  rcases Nat.eq_zero_or_pos n with rfl | hpos
  · decide +kernel
  · rcases Nat.lt_or_eq_of_le h with hlt | rfl
    · exact nearest_of_lt (Nat.ne_of_gt hpos) hlt
    · exact nearest_two_pow

theorem denominator_pos (m : Magnitude) : 0 < m.denominator := by
  rw [denominator, Nat.one_shiftLeft]
  exact Nat.two_pow_pos _

end Magnitude

/-- An integer up to `2 ^ 53` on either side of zero is a binary64 number. -/
theorem toRat?_ofInt {n : Int} (h : n.natAbs ≤ 2 ^ 53) : (ofInt n).toRat? = some (n : ℚ) := by
  obtain ⟨hfinite, hnumerator⟩ := Magnitude.ofNat_exact h
  have hpos : ((Magnitude.ofNat n.natAbs).denominator : ℚ) ≠ 0 := by
    exact_mod_cast (Magnitude.denominator_pos _).ne'
  have hquotient : ((Magnitude.ofNat n.natAbs).numerator : ℚ) /
      (Magnitude.ofNat n.natAbs).denominator = n.natAbs := by
    rw [hnumerator, Nat.cast_mul, mul_div_cancel_right₀ _ hpos]
  rw [ofInt, toRat?, if_pos hfinite, hquotient]
  congr 1
  rcases lt_or_ge n 0 with hneg | hnonneg
  · have habs : ((n.natAbs : Int) : ℚ) = ((-n : Int) : ℚ) := by
      congr 1
      omega
    rw [Int.cast_natCast] at habs
    simp [hneg, habs]
  · have habs : ((n.natAbs : Int) : ℚ) = (n : ℚ) := by
      congr 1
      omega
    rw [Int.cast_natCast] at habs
    simp [not_lt.2 hnonneg, habs]

end SeriesGateway.Binary64
