import SeriesGateway.Proofs.Text.Numeral
import SeriesGateway.Report.Figures

namespace SeriesGateway.Report

variable {cs lead : List Char} {groups : List (List Char)}

/-- Groups of thousands: one to three characters in the first, and three in each of the others. -/
structure InThousands (lead : List Char) (groups : List (List Char)) : Prop where
  lead_pos : 1 ≤ lead.length
  lead_le : lead.length ≤ 3
  length_eq : ∀ group ∈ groups, group.length = 3

theorem inThousands_singleton (c : Char) : InThousands [c] [] where
  lead_pos := le_rfl
  lead_le := Nat.le_add_left 1 2
  length_eq := fun _ h => absurd h List.not_mem_nil

theorem InThousands.open_group (h : InThousands lead groups) (hfull : lead.length = 3) (c : Char) :
    InThousands [c] (lead :: groups) where
  lead_pos := le_rfl
  lead_le := Nat.le_add_left 1 2
  length_eq := List.forall_mem_cons.2 ⟨hfull, h.length_eq⟩

theorem InThousands.extend (h : InThousands lead groups) (hfull : lead.length ≠ 3) (c : Char) :
    InThousands (c :: lead) groups where
  lead_pos := Nat.le_add_left 1 lead.length
  lead_le := Nat.lt_of_le_of_ne h.lead_le hfull
  length_eq := h.length_eq

/-- What is left has a multiple of three characters exactly where the first group is full. -/
theorem InThousands.length_mod_three (h : InThousands lead groups) :
    (lead ++ groups.flatten).length % 3 = 0 ↔ lead.length = 3 := by
  have hlength : groups.flatten.length = groups.length * 3 := by
    rw [List.length_flatten, List.map_congr_left h.length_eq, List.map_const',
      List.sum_replicate, smul_eq_mul]
  have hpos := h.lead_pos
  have hle := h.lead_le
  rw [List.length_append, hlength]
  omega

/-- Between the commas stand groups of thousands, which make up the text again. -/
theorem splitOn_grouped (hne : cs ≠ []) (hcomma : ',' ∉ cs) :
    ∃ lead groups, (grouped cs).splitOn ',' = lead :: groups ∧ InThousands lead groups ∧
      lead ++ groups.flatten = cs := by
  induction cs with
  | nil => exact absurd rfl hne
  | cons c rest ih =>
    obtain ⟨hc, hrest⟩ : ',' ≠ c ∧ ',' ∉ rest := by simpa using hcomma
    rcases eq_or_ne rest [] with rfl | hrestne
    · exact ⟨[c], [], List.splitOn_eq_singleton hcomma, inThousands_singleton c, rfl⟩
    · obtain ⟨lead, groups, hsplit, hgroups, hflat⟩ := ih hrestne hrest
      have hmod := hflat ▸ hgroups.length_mod_three
      by_cases hfull : lead.length = 3
      · refine ⟨[c], lead :: groups, ?_, hgroups.open_group hfull c, by simp [hflat]⟩
        rw [grouped, if_pos (by simp [hrestne, hmod, hfull]),
          ← List.singleton_append, List.splitOn_append_cons_self,
          List.splitOn_eq_singleton (by simpa using hc), hsplit]
        rfl
      · refine ⟨c :: lead, groups, ?_, hgroups.extend hfull c, by simp [hflat]⟩
        rw [grouped, if_neg (by simp [hmod, hfull]), List.splitOn_cons_eq_if_modifyHead,
          if_neg (by simpa using hc.symm), hsplit]
        rfl

/-- Without its commas the text is what it was before. -/
theorem filter_grouped (hcomma : ',' ∉ cs) : (grouped cs).filter (· ≠ ',') = cs := by
  induction cs with
  | nil => rfl
  | cons c rest ih =>
    obtain ⟨hc, hrest⟩ : ',' ≠ c ∧ ',' ∉ rest := by simpa using hcomma
    rw [grouped]
    split_ifs
    · rw [List.filter_cons_of_pos (by simpa using hc.symm), List.filter_cons_of_neg (by simp),
        ih hrest]
    · rw [List.filter_cons_of_pos (by simpa using hc.symm), ih hrest]

theorem filter_withCommas (n : UInt64) :
    (withCommas n).toList.filter (· ≠ ',') = Numeral.text n.toNat := by
  rw [withCommas, String.toList_ofList]
  exact filter_grouped (Numeral.not_mem_text rfl _)

theorem eq_of_withCommas {m n : UInt64} (h : withCommas m = withCommas n) : m = n := by
  have htext : Numeral.text m.toNat = Numeral.text n.toNat := by
    rw [← filter_withCommas, h, filter_withCommas]
  exact UInt64.toNat_inj.1 (Numeral.text_injective htext)

/-- A number with commas has the digits of the number, in groups of thousands between the commas,
and tells the number. -/
theorem withCommas_separates_thousands :
    (∀ n : UInt64,
      (withCommas n).toList.filter (· ≠ ',') = Numeral.text n.toNat ∧
      ∃ lead groups, (withCommas n).toList.splitOn ',' = lead :: groups ∧
        InThousands lead groups ∧ ∀ group ∈ lead :: groups, ∀ c ∈ group, c.isDigit = true) ∧
    Function.Injective withCommas := by
  refine ⟨fun n => ⟨filter_withCommas n, ?_⟩, fun _ _ => eq_of_withCommas⟩
  obtain ⟨lead, groups, hsplit, hgroups, hflat⟩ :=
    splitOn_grouped (Numeral.text_ne_nil n.toNat) (Numeral.not_mem_text rfl _)
  refine ⟨lead, groups, by rw [withCommas, String.toList_ofList, groupedText, hsplit], hgroups, ?_⟩
  intro group hgroup c hc
  have hmem : c ∈ (lead :: groups).flatten := List.mem_flatten.2 ⟨group, hgroup, hc⟩
  rw [List.flatten_cons, hflat] at hmem
  exact Numeral.isDigit_of_mem_text hmem

end SeriesGateway.Report
