import Mathlib
import SeriesGateway.Window

namespace SeriesGateway.Window

variable {start stop step t : Int64}

/-- The bounds of 64 bits as literals, which linear arithmetic reads. -/
theorem toInt_bounds (t : Int64) :
    -0x8000000000000000 ≤ t.toInt ∧ t.toInt < 0x8000000000000000 :=
  ⟨t.le_toInt, t.toInt_lt⟩

theorem pointCount_of_le (h : stop.toInt ≤ start.toInt) : pointCount start stop step = 0 := by
  simp [pointCount, h]

/-- Within one step of the end there is one point left. -/
theorem pointCount_of_last (h : start.toInt < stop.toInt)
    (hlast : stop.toInt ≤ start.toInt + step.toInt) : pointCount start stop step = 1 := by
  have hq : (stop.toInt - start.toInt + step.toInt - 1) / step.toInt = 1 := by
    rw [Int.ediv_eq_iff_of_pos (by omega)]
    omega
  rw [pointCount, if_neg (by omega), hq]
  rfl

/-- A step that stays in range leaves one point less. -/
theorem pointCount_climb (hstep : 0 < step.toInt) (h : start.toInt < stop.toInt)
    (hfits : start.toInt + step.toInt < 0x8000000000000000) :
    pointCount start stop step =
      pointCount (.ofInt (start.toInt + step.toInt)) stop step + 1 := by
  have hbound := toInt_bounds start
  have hnext : (Int64.ofInt (start.toInt + step.toInt)).toInt = start.toInt + step.toInt :=
    Int64.toInt_ofInt_of_le (by omega) hfits
  rcases lt_or_ge (start.toInt + step.toInt) stop.toInt with hmore | hlast
  · have hspan : stop.toInt - start.toInt + step.toInt - 1 =
        (stop.toInt - (start.toInt + step.toInt) + step.toInt - 1) + 1 * step.toInt := by omega
    have hrest : 0 ≤ (stop.toInt - (start.toInt + step.toInt) + step.toInt - 1) / step.toInt :=
      Int.ediv_nonneg (by omega) (by omega)
    rw [pointCount, pointCount, hnext, if_neg (by omega), if_neg (by omega), hspan,
      Int.add_mul_ediv_right _ _ (by omega)]
    omega
  · rw [pointCount_of_last h (by omega), pointCount_of_le (by omega)]

/-- The count is the length of the span in steps, rounded up. -/
theorem pointCount_eq_ceil (hstep : 0 < step.toInt) :
    (pointCount start stop step : ℤ) =
      max 0 ⌈((stop.toInt - start.toInt : ℤ) : ℚ) / step.toInt⌉ := by
  have hpos : (0 : ℚ) < step.toInt := by exact_mod_cast hstep
  rcases lt_or_ge start.toInt stop.toInt with h | h
  · have hceil : ⌈((stop.toInt - start.toInt : ℤ) : ℚ) / step.toInt⌉ =
        (stop.toInt - start.toInt + step.toInt - 1) / step.toInt := by
      obtain ⟨hlow, hhigh⟩ := (Int.ediv_eq_iff_of_pos hstep).1
        (rfl : (stop.toInt - start.toInt + step.toInt - 1) / step.toInt = _)
      rw [Int.ceil_eq_iff, lt_div_iff₀ hpos, div_le_iff₀ hpos]
      constructor
      · exact_mod_cast (by linarith)
      · exact_mod_cast (by linarith)
    have hnonneg : 0 ≤ (stop.toInt - start.toInt + step.toInt - 1) / step.toInt :=
      Int.ediv_nonneg (by omega) (by omega)
    rw [hceil, pointCount, if_neg (by omega), max_eq_right hnonneg]
    omega
  · have hspan : ((stop.toInt - start.toInt : ℤ) : ℚ) / step.toInt ≤ 0 :=
      div_nonpos_of_nonpos_of_nonneg (by exact_mod_cast (by omega)) hpos.le
    rw [pointCount_of_le h, max_eq_left (Int.ceil_le.2 (by simpa using hspan))]
    rfl

/-- Numbers 0 to `n` are zero and the successors of those below `n`. -/
theorem map_range_succ {α : Type} (f : Nat → α) (n : Nat) :
    (List.range (n + 1)).map f = f 0 :: (List.range n).map fun k => f (k + 1) := by
  simp [List.range_succ_eq_map, Function.comp_def]

/-- The climb meets each point of the grid that is left, in order, and no other. -/
theorem map_toInt_climb (hstep : 0 < step.toInt) :
    (climb stop step t hstep).map Int64.toInt =
      (List.range (pointCount t stop step)).map fun k : Nat => t.toInt + k * step.toInt := by
  -- The recursion of `climb`: a step that fits, a last point behind which none fits, the end.
  fun_induction climb stop step t hstep with
  | case1 t hbelow hfits ih =>
    have hbound := toInt_bounds t
    have hnext : (Int64.ofInt (t.toInt + step.toInt)).toInt = t.toInt + step.toInt :=
      Int64.toInt_ofInt_of_le (by omega) hfits
    rw [pointCount_climb hstep hbelow hfits, map_range_succ, List.map_cons, ih, hnext]
    simp only [Nat.cast_zero, zero_mul, add_zero, Nat.cast_add, Nat.cast_one]
    congr 2
    funext k
    ring
  | case2 t hbelow hfits =>
    have hbound := toInt_bounds stop
    rw [pointCount_of_last hbelow (by omega)]
    simp
  | case3 t hbelow =>
    rw [pointCount_of_le (by omega)]
    rfl

theorem map_toInt_timestamps (w : Window) :
    w.timestamps.map Int64.toInt =
      (List.range w.length).map fun k : Nat => w.start.toInt + k * w.step.toInt :=
  map_toInt_climb w.step_pos

theorem length_timestamps (w : Window) : w.timestamps.length = w.length := by
  simpa using congrArg List.length w.map_toInt_timestamps

/-- The point of a number is that many steps behind the start. -/
theorem getElem?_timestamps (w : Window) {k : Nat} (hk : k < w.length) :
    ∃ t, w.timestamps[k]? = some t ∧ t.toInt = w.start.toInt + k * w.step.toInt := by
  have hpoint := congrArg (·[k]?) w.map_toInt_timestamps
  simp only [List.getElem?_map, List.getElem?_range hk, Option.map_some] at hpoint
  obtain ⟨t, ht, he⟩ := Option.map_eq_some_iff.1 hpoint
  exact ⟨t, ht, he⟩

theorem lt_stop_of_mem_climb (hstep : 0 < step.toInt) {s : Int64}
    (hs : s ∈ climb stop step t hstep) : s.toInt < stop.toInt := by
  fun_induction climb stop step t hstep with
  | case1 t hbelow hfits ih =>
    rcases List.mem_cons.1 hs with rfl | hs
    · exact hbelow
    · exact ih hs
  | case2 t hbelow hfits =>
    rw [List.mem_singleton.1 hs]
    exact hbelow
  | case3 t hbelow => simp at hs

/-- Behind the last point the grid has left the window. -/
theorem stop_le_next (hstep : 0 < step.toInt) :
    stop.toInt ≤ start.toInt + pointCount start stop step * step.toInt := by
  have hpos : (0 : ℚ) < step.toInt := by exact_mod_cast hstep
  have hceil : ((stop.toInt - start.toInt : ℤ) : ℚ) / step.toInt ≤
      (pointCount start stop step : ℤ) := by
    rw [pointCount_eq_ceil hstep]
    exact (Int.le_ceil _).trans (by exact_mod_cast le_max_right _ _)
  rw [div_le_iff₀ hpos] at hceil
  have : stop.toInt - start.toInt ≤ pointCount start stop step * step.toInt := by
    exact_mod_cast hceil
  omega

theorem make_eq_ok_iff {w : Window} :
    make start stop step = .ok w ↔
      pointCount start stop step ≤ pointLimit ∧
        w.start = start ∧ w.stop = stop ∧ w.step = step := by
  unfold make
  split
  · rename_i hstep
    split
    · rename_i hcount
      cases w
      simp only [Except.ok.injEq, Window.mk.injEq, hcount, true_and, eq_comm]
    · rename_i hcount
      simp [hcount]
  · rename_i hstep
    simp only [reduceCtorEq, false_iff, not_and]
    rintro - - - rfl
    exact hstep w.step_pos

/-- No number on the way to a count needs more than 128 bits with sign. -/
theorem span_fits (start stop step : Int64) :
    -2 ^ 127 ≤ stop.toInt - start.toInt ∧
      stop.toInt - start.toInt + step.toInt < 2 ^ 127 := by
  have hstart := toInt_bounds start
  have hstop := toInt_bounds stop
  have hstep := toInt_bounds step
  omega

/-- Three numbers make a window exactly if the step is positive and the span has at most
`pointLimit` steps, rounded up. The points of that window are its grid, each below the end, and
the grid goes on behind the last point at or behind the end. The count needs 128 bits at most. -/
theorem make_isOk_and_timestamps (start stop step : Int64) :
    ((∃ w, make start stop step = .ok w) ↔ 0 < step.toInt ∧
      max 0 ⌈((stop.toInt - start.toInt : ℤ) : ℚ) / step.toInt⌉ ≤ 100000) ∧
    ∀ w, make start stop step = .ok w →
      (w.length : ℤ) = max 0 ⌈((stop.toInt - start.toInt : ℤ) : ℚ) / step.toInt⌉ ∧
      w.timestamps.length = w.length ∧
      w.timestamps.map Int64.toInt =
        (List.range w.length).map (fun k : Nat => start.toInt + k * step.toInt) ∧
      (∀ t ∈ w.timestamps, t.toInt < stop.toInt) ∧
      stop.toInt ≤ start.toInt + w.length * step.toInt ∧
      (-2 ^ 127 ≤ stop.toInt - start.toInt ∧
        stop.toInt - start.toInt + step.toInt < 2 ^ 127) := by
  refine ⟨⟨?_, ?_⟩, ?_⟩
  · rintro ⟨w, hw⟩
    obtain ⟨hcount, -, -, hstep⟩ := make_eq_ok_iff.1 hw
    have hpos : 0 < step.toInt := hstep ▸ w.step_pos
    refine ⟨hpos, ?_⟩
    rw [← pointCount_eq_ceil hpos]
    exact_mod_cast hcount
  · rintro ⟨hpos, hceil⟩
    rw [← pointCount_eq_ceil hpos] at hceil
    exact ⟨⟨start, stop, step, hpos⟩, make_eq_ok_iff.2 ⟨by exact_mod_cast hceil, rfl, rfl, rfl⟩⟩
  · intro w hw
    obtain ⟨-, rfl, rfl, rfl⟩ := make_eq_ok_iff.1 hw
    exact ⟨pointCount_eq_ceil w.step_pos, w.length_timestamps, w.map_toInt_timestamps,
      fun t ht => lt_stop_of_mem_climb w.step_pos ht, stop_le_next w.step_pos, span_fits _ _ _⟩

/-- At both ends of 64 bits the points are four, and the step behind the last does not fit. -/
theorem make_widest :
    ∃ w, make Int64.minValue Int64.maxValue 0x4000000000000000 = .ok w ∧
      w.timestamps.map Int64.toInt =
        [-0x8000000000000000, -0x4000000000000000, 0, 0x4000000000000000] := by
  obtain ⟨w, hw⟩ : ∃ w, make Int64.minValue Int64.maxValue 0x4000000000000000 = .ok w :=
    ⟨_, rfl⟩
  have hlength : w.length = 4 := by
    obtain ⟨-, hstart, hstop, hstep⟩ := make_eq_ok_iff.1 hw
    rw [length, hstart, hstop, hstep]
    decide
  refine ⟨w, hw, ?_⟩
  rw [((make_isOk_and_timestamps _ _ _).2 w hw).2.2.1, hlength]
  decide

end SeriesGateway.Window
