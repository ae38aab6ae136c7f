import SeriesGateway.Proofs.Text.Numeral

namespace SeriesGateway.Numeral

/-- So many digits, and the number that they denote. -/
structure Digits (width n : Nat) (cs : List Char) : Prop where
  length_eq : cs.length = width
  isDigit : ∀ c ∈ cs, c.isDigit = true
  value_eq : value cs = n

/-- So many characters of which an unsigned numeral is read: digits, or a plus and digits. -/
structure Unsigned (width n : Nat) (cs : List Char) : Prop where
  length_eq : cs.length = width
  spelled : ∃ digits, (cs = digits ∨ cs = '+' :: digits) ∧ digits ≠ [] ∧
    (∀ c ∈ digits, c.isDigit = true) ∧ value digits = n

theorem value_cons (c : Char) (cs : List Char) :
    value (c :: cs) = (c.toNat - '0'.toNat) * 10 ^ cs.length + value cs := by
  rw [value, value, Nat.ofDigitChars_cons, Nat.ofDigitChars_eq_ofDigitChars_zero, Nat.mul_zero,
    Nat.zero_add, Nat.mul_comm]

theorem toNat_le_of_isDigit {c : Char} (h : c.isDigit = true) : c.toNat - '0'.toNat ≤ 9 := by
  simp only [Char.isDigit, Bool.and_eq_true, decide_eq_true_eq] at h
  have hhigh : c.toNat ≤ 57 := h.2
  have hzero : '0'.toNat = 48 := rfl
  omega

theorem isDigit_eq_false_of_isAlpha {c : Char} (h : c.isAlpha = true) : c.isDigit = false := by
  simp only [Char.isAlpha, Char.isUpper, Char.isLower] at h
  simp only [Char.isDigit]
  grind

theorem isAlpha_eq_false_of_isDigit {c : Char} (h : c.isDigit = true) : c.isAlpha = false := by
  rw [← Bool.not_eq_true]
  intro halpha
  rw [isDigit_eq_false_of_isAlpha halpha] at h
  cases h

theorem value_lt {cs : List Char} (h : ∀ c ∈ cs, c.isDigit = true) :
    value cs < 10 ^ cs.length := by
  induction cs with
  | nil => decide
  | cons c cs ih =>
    have hdigit := toNat_le_of_isDigit (h c List.mem_cons_self)
    have hrest := ih fun d hd => h d (List.mem_cons_of_mem c hd)
    rw [value_cons, List.length_cons, pow_succ]
    calc (c.toNat - '0'.toNat) * 10 ^ cs.length + value cs
        ≤ 9 * 10 ^ cs.length + value cs :=
          Nat.add_le_add_right (Nat.mul_le_mul_right _ hdigit) _
      _ < 10 ^ cs.length * 10 := by omega

theorem Unsigned.lt {width n : Nat} {cs : List Char} (h : Unsigned width n cs) :
    n < 10 ^ width := by
  obtain ⟨digits, hcs, -, hdigits, rfl⟩ := h.spelled
  have hlength : digits.length ≤ width := by
    rw [← h.length_eq]
    rcases hcs with rfl | rfl
    · exact le_rfl
    · exact Nat.le_succ _
  exact (value_lt hdigits).trans_le (Nat.pow_le_pow_right (by decide) hlength)

theorem value_padded (width n : Nat) : value (padded width n) = n := by
  rw [padded, value, Nat.ofDigitChars_append, Nat.ofDigitChars_replicate_zero, Nat.mul_zero]
  exact value_text n

theorem isDigit_of_mem_padded {width n : Nat} {c : Char} (h : c ∈ padded width n) :
    c.isDigit = true := by
  rcases List.mem_append.1 h with hzero | htext
  · rw [List.eq_of_mem_replicate hzero]
    rfl
  · exact isDigit_of_mem_text htext

theorem digits_padded {width n : Nat} (hwidth : 0 < width) (h : n < 10 ^ width) :
    Digits width n (padded width n) where
  length_eq := by
    obtain ⟨k, rfl⟩ := Nat.exists_eq_add_of_le' hwidth
    have hlength := (length_text_le_iff n k).2 h
    rw [padded, List.length_append, List.length_replicate]
    omega
  isDigit := fun _ => isDigit_of_mem_padded
  value_eq := value_padded width n

theorem digits_twoDigits {n : Nat} (h : n < 100) : Digits 2 n (twoDigits n) := by
  have heq : twoDigits n = padded 2 n := by
    have hone := length_text_le_iff n 0
    have hpos := List.length_pos_iff.2 (text_ne_nil n)
    unfold twoDigits padded
    split
    · rename_i hsmall
      rw [show (text n).length = 1 by omega]
      rfl
    · rename_i hlarge
      rw [show 2 - (text n).length = 0 by omega]
      rfl
  rw [heq]
  exact digits_padded (by decide) (by omega)

theorem isDigit_of_mem_twoDigits {n : Nat} {c : Char} (h : c ∈ twoDigits n) :
    c.isDigit = true := by
  unfold twoDigits at h
  split_ifs at h
  · rcases List.mem_cons.1 h with rfl | htext
    · rfl
    · exact isDigit_of_mem_text htext
  · exact isDigit_of_mem_text h

theorem value_twoDigits (n : Nat) : value (twoDigits n) = n := by
  unfold twoDigits
  split_ifs
  · rw [value_cons, value_text, Nat.sub_self, Nat.zero_mul, Nat.zero_add]
  · exact value_text n

/-- A number fills more digits than it is meant to if it is too great for them. -/
theorem digits_padded_length (width n : Nat) : Digits (padded width n).length n (padded width n) :=
  ⟨rfl, fun _ => isDigit_of_mem_padded, value_padded width n⟩

theorem digits_twoDigits_length (n : Nat) : Digits (twoDigits n).length n (twoDigits n) :=
  ⟨rfl, fun _ => isDigit_of_mem_twoDigits, value_twoDigits n⟩

theorem natural?_eq_some_iff {cs : List Char} {n : Nat} :
    natural? cs = some n ↔ cs ≠ [] ∧ (∀ c ∈ cs, c.isDigit = true) ∧ value cs = n := by
  simp [natural?, and_assoc]

theorem natural?_eq_none {cs : List Char} {c : Char} (hc : c.isDigit = false) (h : c ∈ cs) :
    natural? cs = none := by
  rw [Option.eq_none_iff_forall_ne_some]
  intro n hn
  rw [(natural?_eq_some_iff.1 hn).2.1 c h] at hc
  cases hc

/-- A numeral has no characters beside its digits and its sign. -/
theorem signed?_eq_none {cs : List Char} {c : Char} (hc : c.isDigit = false)
    (hsign : c ≠ '+' ∧ c ≠ '-') (h : c ∈ cs) : signed? cs = none := by
  unfold signed?
  split
  · rw [natural?_eq_none hc (List.mem_of_ne_of_mem hsign.1 h)]
    rfl
  · rw [natural?_eq_none hc (List.mem_of_ne_of_mem hsign.2 h)]
    rfl
  · rw [natural?_eq_none hc h]
    rfl

theorem below?_eq_some_iff {bound : Nat} {cs : List Char} {n : Nat} :
    below? bound cs = some n ↔ n < bound ∧ ∃ digits, (cs = digits ∨ cs = '+' :: digits) ∧
      digits ≠ [] ∧ (∀ c ∈ digits, c.isDigit = true) ∧ value digits = n := by
  unfold below?
  split
  · rename_i rest
    have hspelled : (∃ digits, ('+' :: rest = digits ∨ '+' :: rest = '+' :: digits) ∧
        digits ≠ [] ∧ (∀ c ∈ digits, c.isDigit = true) ∧ value digits = n) ↔
          natural? rest = some n := by
      rw [natural?_eq_some_iff]
      refine ⟨?_, fun h => ⟨rest, Or.inr rfl, h⟩⟩
      rintro ⟨digits, rfl | heq, hne, hdigits, hvalue⟩
      · cases hdigits '+' List.mem_cons_self
      · cases heq
        exact ⟨hne, hdigits, hvalue⟩
    rw [hspelled]
    dsimp only
    cases natural? rest <;> grind
  · rename_i hsign
    have hspelled : (∃ digits, (cs = digits ∨ cs = '+' :: digits) ∧
        digits ≠ [] ∧ (∀ c ∈ digits, c.isDigit = true) ∧ value digits = n) ↔
          natural? cs = some n := by
      rw [natural?_eq_some_iff]
      refine ⟨?_, fun h => ⟨cs, Or.inl rfl, h⟩⟩
      rintro ⟨digits, rfl | heq, h⟩
      · exact h
      · exact absurd heq (hsign digits)
    rw [hspelled]
    dsimp only
    cases natural? cs <;> grind

/-- Numbers of few digits are never out of bounds. -/
theorem below?_eq_some_iff_unsigned {bound n : Nat} {cs : List Char}
    (hbound : 10 ^ cs.length ≤ bound) :
    below? bound cs = some n ↔ Unsigned cs.length n cs := by
  rw [below?_eq_some_iff]
  exact ⟨fun h => ⟨rfl, h.2⟩, fun h => ⟨h.lt.trans_le hbound, h.spelled⟩⟩

theorem Digits.not_mem {width n : Nat} {cs : List Char} (h : Digits width n cs) {c : Char}
    (hc : c.isDigit = false) : c ∉ cs := by
  intro hmem
  rw [h.isDigit c hmem] at hc
  cases hc

theorem Digits.ne_nil {width n : Nat} {cs : List Char} (h : Digits width n cs)
    (hwidth : 0 < width) : cs ≠ [] := by
  rw [← List.length_pos_iff, h.length_eq]
  exact hwidth

theorem Digits.unsigned {width n : Nat} {cs : List Char} (h : Digits width n cs)
    (hwidth : 0 < width) : Unsigned width n cs :=
  ⟨h.length_eq, cs, Or.inl rfl, h.ne_nil hwidth, h.isDigit, h.value_eq⟩

/-- A number ends where another character than a digit stands. -/
theorem Digits.append_cons_inj {width length m n : Nat} {as bs rest left : List Char} {x y : Char}
    (has : Digits width m as) (hbs : Digits length n bs) (hx : x.isDigit = false)
    (hy : y.isDigit = false) (h : as ++ x :: rest = bs ++ y :: left) :
    m = n ∧ x = y ∧ rest = left := by
  have htake := congrArg (List.takeWhile Char.isDigit) h
  rw [List.takeWhile_append_of_pos has.isDigit, List.takeWhile_append_of_pos hbs.isDigit,
    List.takeWhile_cons_of_neg (by simp [hx]), List.takeWhile_cons_of_neg (by simp [hy]),
    List.append_nil, List.append_nil] at htake
  subst htake
  exact ⟨has.value_eq.symm.trans hbs.value_eq, List.cons.inj (List.append_cancel_left h)⟩

end SeriesGateway.Numeral
