import SeriesGateway.Proofs.Report.Tenths

namespace SeriesGateway.Report

variable {n size : UInt64} {rank : ℕ}

/-- The sizes and ranks that the climb goes through if it is done in words, which wrap round. -/
inductive Climbs (n : UInt64) : UInt64 → ℕ → Prop
  | start : Climbs n 1 0
  | step {size : UInt64} {rank : ℕ} (h : Climbs n size rank) (hgo : 1000 ≤ n / size) :
      Climbs n (size * 1000) (rank + 1)

/-- The size of a unit that is not too great for a number of bytes. -/
structure IsSize (n size : UInt64) (rank : ℕ) : Prop where
  size_eq : size.toNat = 1000 ^ rank
  size_le : size ≤ n

theorem IsSize.pos (h : IsSize n size rank) : 0 < size.toNat := by
  rw [h.size_eq]
  exact Nat.pow_pos (by decide)

theorem IsSize.rank_le (h : IsSize n size rank) : rank ≤ 6 :=
  le_six_of_pow_le (h.size_eq ▸ UInt64.le_iff_toNat_le.1 h.size_le) n.toNat_lt

/-- There is another step in words exactly if there is one in numbers. -/
theorem thousand_le_div_iff : 1000 ≤ n / size ↔ 1000 ≤ n.toNat / size.toNat := by
  rw [UInt64.le_iff_toNat_le, UInt64.toNat_div]
  rfl

/-- Where the climb goes on, the next size is not above the count. -/
theorem IsSize.mul_le (h : IsSize n size rank) (hgo : 1000 ≤ n / size) :
    size.toNat * 1000 ≤ n.toNat := by
  rw [mul_comm]
  exact (Nat.le_div_iff_mul_le h.pos).1 (thousand_le_div_iff.1 hgo)

theorem IsSize.toNat_mul (h : IsSize n size rank) (hgo : 1000 ≤ n / size) :
    (size * 1000).toNat = size.toNat * 1000 := by
  rw [UInt64.toNat_mul]
  exact Nat.mod_eq_of_lt ((h.mul_le hgo).trans_lt n.toNat_lt)

theorem IsSize.step (h : IsSize n size rank) (hgo : 1000 ≤ n / size) :
    IsSize n (size * 1000) (rank + 1) where
  size_eq := by rw [h.toNat_mul hgo, h.size_eq, pow_succ]
  size_le := by
    rw [UInt64.le_iff_toNat_le, h.toNat_mul hgo]
    exact h.mul_le hgo

theorem Climbs.isSize (h : Climbs n size rank) (hpos : 1 ≤ n) : IsSize n size rank := by
  induction h with
  | start => exact ⟨rfl, hpos⟩
  | step _ hgo ih => exact ih.step hgo

/-- The climb in words comes to the unit that the climb in numbers comes to. -/
theorem Climbs.exists_top (h : Climbs n size rank) (hpos : 1 ≤ n) :
    ∃ last top, Climbs n last top ∧ n / last < 1000 ∧
      climbUnits n.toNat size.toNat rank = (last.toNat, top) := by
  generalize hs : size.toNat = s
  fun_induction climbUnits n.toNat s rank generalizing size with
  | case1 s rank hstep ih =>
    subst hs
    have hgo := thousand_le_div_iff.2 hstep.2
    exact ih (h.step hgo) ((h.isSize hpos).toNat_mul hgo)
  | case2 s rank hlast =>
    subst hs
    have hend : ¬1000 ≤ n / size := fun hgo =>
      hlast ⟨(h.isSize hpos).pos, thousand_le_div_iff.1 hgo⟩
    exact ⟨size, rank, h, UInt64.not_le.1 hend, rfl⟩

/-- In words of 64 bits no product of the climb is too great, nothing is divided by zero, and there
are six steps at most. The climb ends at the greatest unit of which there is one at least, which is
the one that the text names. -/
theorem climb_stays_in_words (n : UInt64) (h : 10 ≤ n) :
    (∀ size rank, Climbs n size rank →
      size ≠ 0 ∧ rank ≤ 6 ∧ (1000 ≤ n / size → size.toNat * 1000 < 2 ^ 64)) ∧
    ∃ size rank unit, Climbs n size rank ∧ climbUnits n.toNat 1 0 = (size.toNat, rank) ∧
      size.toNat = 1000 ^ rank ∧ size ≤ n ∧ n / size < 1000 ∧
      rank ≤ 6 ∧ byteUnits[rank]? = some unit ∧
      byteCount n = .ofList (amountText (inTenths n.toNat size.toNat) ++ ' ' :: unit.toList) := by
  have hten : 10 ≤ n.toNat := UInt64.le_iff_toNat_le.1 h
  have hpos : 1 ≤ n := UInt64.le_iff_toNat_le.2 (Nat.le_trans (by decide) hten)
  constructor
  · intro size rank hclimb
    have hsized := hclimb.isSize hpos
    refine ⟨?_, hsized.rank_le, fun hgo => (hsized.mul_le hgo).trans_lt n.toNat_lt⟩
    rintro rfl
    exact absurd hsized.pos (lt_irrefl 0)
  · obtain ⟨size, rank, hclimb, hend, htop⟩ := Climbs.start.exists_top hpos
    have hsized := hclimb.isSize hpos
    have hrank : rank < byteUnits.length := Nat.lt_succ_of_le hsized.rank_le
    refine ⟨size, rank, byteUnits[rank], hclimb, htop, hsized.size_eq, hsized.size_le, hend,
      hsized.rank_le, List.getElem?_eq_getElem hrank, ?_⟩
    have hclimbs : climbUnits n.toNat 1 0 = (size.toNat, rank) := htop
    rw [byteCount, byteCountText, if_neg (by omega), hclimbs]
    simp only [List.getD_eq_getElem _ _ hrank]

/-- The greatest count is told in the greatest unit. The size of the next one would not fit. -/
theorem climb_of_greatest :
    (10 : UInt64) ≤ 18446744073709551615 ∧
      ∃ size, Climbs 18446744073709551615 size 6 ∧ size.toNat = 1000 ^ 6 ∧
        (18446744073709551615 / size).toNat = 18 ∧ 2 ^ 64 ≤ size.toNat * 1000 := by
  have h : (10 : UInt64) ≤ 18446744073709551615 := by decide
  obtain ⟨-, size, rank, -, hclimb, -, hsize, -, hend, hsix, -⟩ :=
    climb_stays_in_words 18446744073709551615 h
  have hquotient : (18446744073709551615 / size).toNat = 18446744073709551615 / 1000 ^ rank := by
    rw [UInt64.toNat_div, hsize]
    rfl
  have hlt : 18446744073709551615 / 1000 ^ rank < 1000 :=
    hquotient ▸ UInt64.lt_iff_toNat_lt.1 hend
  obtain rfl : rank = 6 := by
    by_contra hne
    have hpow : 1000 ^ rank ≤ 1000 ^ 5 := Nat.pow_le_pow_right (by decide) (by omega)
    have hquotients : 18446744073709551615 / 1000 ^ 5 ≤ 18446744073709551615 / 1000 ^ rank :=
      Nat.div_le_div_left hpow (Nat.pow_pos (by decide))
    omega
  exact ⟨h, size, hclimb, hsize, hquotient, by rw [hsize]; norm_num⟩

end SeriesGateway.Report
