import SeriesGateway.Proofs.Text.Numeral
import SeriesGateway.Text.Blank

namespace SeriesGateway.Text

theorem isBlank_eq_false_of_isDigit {c : Char} (h : c.isDigit = true) : isBlank c = false := by
  simp only [Char.isDigit, Bool.and_eq_true, decide_eq_true_eq] at h
  have hlow : 48 ≤ c.toNat := h.1
  have hhigh : c.toNat ≤ 57 := h.2
  simp only [isBlank, blankRanges, List.any_cons, List.any_nil, Bool.or_false,
    Bool.or_eq_false_iff, Bool.and_eq_false_iff, decide_eq_false_iff_not]
  omega

theorem isBlank_eq_false_of_isAlpha {c : Char} (h : c.isAlpha = true) : isBlank c = false := by
  simp only [Char.isAlpha, Char.isUpper, Char.isLower, Bool.or_eq_true, Bool.and_eq_true,
    decide_eq_true_eq] at h
  have hrange : 65 ≤ c.toNat ∧ c.toNat ≤ 90 ∨ 97 ≤ c.toNat ∧ c.toNat ≤ 122 := h
  simp only [isBlank, blankRanges, List.any_cons, List.any_nil, Bool.or_false,
    Bool.or_eq_false_iff, Bool.and_eq_false_iff, decide_eq_false_iff_not]
  omega

theorem trimStart_append {cs : List Char} (hne : cs ≠ []) (h : ∀ c ∈ cs, isBlank c = false)
    (rest : List Char) : trimStart (cs ++ rest) = cs ++ rest := by
  obtain ⟨c, cs, rfl⟩ := List.exists_cons_of_ne_nil hne
  exact trimStart_cons (h c List.mem_cons_self)

theorem trimStart_trimStart (cs : List Char) : trimStart (trimStart cs) = trimStart cs :=
  List.dropWhile_idempotent isBlank cs

theorem trimStart_blank (cs : List Char) : trimStart (' ' :: cs) = trimStart cs :=
  rfl

/-- White space around a text is trimmed away. -/
theorem trim_append_append {front back : List Char} (hfront : ∀ c ∈ front, isBlank c = true)
    (hback : ∀ c ∈ back, isBlank c = true) (cs : List Char) :
    trim (front ++ cs ++ back) = trim cs := by
  have hstart : trimStart (front ++ cs ++ back) =
      if (trimStart cs).isEmpty then [] else trimStart cs ++ back := by
    rw [trimStart, List.append_assoc, List.dropWhile_append_of_pos hfront, List.dropWhile_append,
      List.dropWhile_eq_nil_iff.2 hback]
    rfl
  rw [trim, hstart, trim]
  split_ifs with hempty
  · rw [List.isEmpty_iff.1 hempty]
  · rw [trimEnd, List.reverse_append, List.dropWhile_append_of_pos, trimEnd]
    intro c hc
    exact hback c (List.mem_reverse.1 hc)

/-- Only white space is trimmed away whole. -/
theorem all_isBlank_of_trim_isEmpty {cs : List Char} (h : (trim cs).isEmpty = true) :
    ∀ c ∈ cs, isBlank c = true := by
  have hstart : trimStart cs = [] := by
    cases hs : trimStart cs with
    | nil => rfl
    | cons c rest =>
      have hc : isBlank c = false := by
        have := List.head?_dropWhile_not isBlank cs
        rw [show cs.dropWhile isBlank = c :: rest from hs] at this
        simpa using this
      have hall : ∀ d ∈ (c :: rest).reverse, isBlank d = true := by
        rw [trim, hs, trimEnd, List.isEmpty_reverse, List.isEmpty_iff] at h
        exact List.dropWhile_eq_nil_iff.1 h
      rw [hall c (by simp)] at hc
      cases hc
  exact List.dropWhile_eq_nil_iff.1 hstart

/-- A text is trimmed already if no white space stands at either end. -/
theorem trim_eq_self {cs : List Char} (hhead : ∀ c ∈ cs.head?, isBlank c = false)
    (hlast : ∀ c ∈ cs.getLast?, isBlank c = false) : trim cs = cs := by
  have hstart : trimStart cs = cs := by
    cases cs with
    | nil => rfl
    | cons c rest => exact trimStart_cons (hhead c rfl)
  rw [trim, hstart]
  rcases List.eq_nil_or_concat cs with rfl | ⟨front, c, rfl⟩
  · rfl
  · rw [List.concat_eq_append] at hlast ⊢
    exact trimEnd_append_singleton (hlast c (by simp))

theorem trim_of_ends {front back cs : List Char} (hfront : front <+: cs) (hback : back <:+ cs)
    (hne : front ≠ [] ∧ back ≠ [])
    (h : (∀ c ∈ front, isBlank c = false) ∧ ∀ c ∈ back, isBlank c = false) : trim cs = cs := by
  apply trim_eq_self
  · obtain ⟨rest, rfl⟩ := hfront
    intro c hc
    rw [List.head?_append_of_ne_nil _ hne.1] at hc
    exact h.1 c (List.mem_of_mem_head? hc)
  · obtain ⟨rest, rfl⟩ := hback
    intro c hc
    rw [List.getLast?_append_of_ne_nil _ hne.2] at hc
    exact h.2 c (List.mem_of_getLast? hc)

theorem isBlank_eq_false_of_mem_intText {n : Int} {c : Char} (h : c ∈ Numeral.intText n) :
    isBlank c = false := by
  rcases Numeral.isDigit_or_eq_minus_of_mem_intText h with hdigit | rfl
  · exact isBlank_eq_false_of_isDigit hdigit
  · rfl

theorem trim_intText (n : Int) : trim (Numeral.intText n) = Numeral.intText n := by
  apply trim_eq_self
  · intro c hc
    exact isBlank_eq_false_of_mem_intText (List.mem_of_mem_head? hc)
  · intro c hc
    exact isBlank_eq_false_of_mem_intText (List.mem_of_getLast? hc)

end SeriesGateway.Text
