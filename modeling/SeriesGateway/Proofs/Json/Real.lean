import SeriesGateway.Binary64.Reader
import SeriesGateway.Proofs.Binary64.Shortest
import SeriesGateway.Proofs.Json.Compact
import SeriesGateway.Proofs.Text.Digits

namespace SeriesGateway

open Json Binary64

namespace Json.NumberText

/-- The magnitude nearest to the decimal that a numeral is, however many digits it has. -/
def magnitude (n : NumberText) : Magnitude :=
  .ofDecimal (Numeral.value (n.whole ++ n.fraction.getD []))
    (n.writtenExponent - (n.fraction.getD []).length)

variable {n : NumberText}

theorem exponent?_exponentText (h : ∀ e ∈ n.exponent, IsDigits e.2) :
    Binary64.exponent? (exponentText n.exponent) = some n.writtenExponent := by
  obtain ⟨negative, whole, fraction, exponent⟩ := n
  match exponent with
  | none => rfl
  | some (negative, digits) =>
    obtain ⟨hne, hdigits⟩ := h _ rfl
    have hnatural : Numeral.natural? digits = some (Numeral.value digits) :=
      Numeral.natural?_eq_some_iff.2 ⟨hne, hdigits, rfl⟩
    cases negative <;>
      simp [exponentText, Binary64.exponent?, Numeral.signed?, hnatural, writtenExponent]

theorem written?_unsignedText (h : n.IsProper) :
    Binary64.written? n.unsignedText =
      some ⟨n.whole, n.fraction.getD [], n.writtenExponent⟩ := by
  have hstops : StopsNumber [] := by rintro c ⟨⟩
  have hbehind : ∀ c ∈ (exponentText n.exponent).head?, c.isDigit = false ∧ c ≠ '.' := by
    simpa using head?_exponentText n.exponent hstops
  obtain ⟨htake, hdrop⟩ := h.whole.span_append
    (isDigit_head?_fractionText n.fraction hbehind)
  have hexponent := exponent?_exponentText h.exponent
  rw [unsignedText, List.append_assoc]
  simp only [Binary64.written?, htake, hdrop]
  cases hfraction : n.fraction with
  | none =>
    have hpoint : ∀ behind, exponentText n.exponent ≠ '.' :: behind := by
      intro behind heq
      exact (hbehind '.' (by rw [heq]; rfl)).2 rfl
    simp only [fractionText, List.nil_append, List.isEmpty_iff, h.whole.1, Bool.and_eq_true,
      false_and, if_false]
    rw [hexponent]
    rfl
  | some digits =>
    obtain ⟨hfrac, hrest⟩ := (h.fraction digits hfraction).span_append fun c hc => (hbehind c hc).1
    simp [fractionText, hfrac, hrest, h.whole.1, hexponent]

theorem writtenExponent_eq {e : Int} (h : n.exponent = some (decide (e < 0), Numeral.text e.natAbs)) :
    n.writtenExponent = e := by
  unfold writtenExponent
  split
  · rename_i hnone
    rw [h] at hnone
    cases hnone
  all_goals
    rename_i digits hsome
    rw [h, Option.some.injEq, Prod.mk.injEq] at hsome
    obtain ⟨hsign, rfl⟩ := hsome
    rw [Numeral.value_text]
    simp only [decide_eq_true_eq, decide_eq_false_iff_not] at hsign
    omega

theorem toLower_of_isDigit {c : Char} (h : c.isDigit = true) : c.toLower = c := by
  have hupper : ¬(c.val ≥ 'A'.val ∧ c.val ≤ 'Z'.val) := by
    simp only [Char.isDigit, Bool.and_eq_true, decide_eq_true_eq] at h
    rintro ⟨hlow, -⟩
    exact absurd (UInt32.le_trans hlow h.2) (by decide)
  rw [Char.toLower, dif_neg hupper]

/-- No numeral spells the name of a special value. -/
theorem unsigned?_unsignedText (h : n.IsProper) (negative : Bool) :
    Binary64.unsigned? negative n.unsignedText = some (.signed negative n.magnitude) := by
  obtain ⟨c, cs, hcs⟩ := List.exists_cons_of_ne_nil h.whole.1
  have hc : c.isDigit = true := h.whole.2 c (by simp [hcs])
  have hname (name : String) {d : Char} {ds : List Char} (htext : name.toList = d :: ds)
      (hd : d.isDigit = false) :
      (String.ofList (n.unsignedText.map Char.toLower) == name) = false := by
    rw [beq_eq_false_iff_ne]
    rintro rfl
    rw [String.toList_ofList, unsignedText, hcs] at htext
    simp only [List.cons_append, List.map_cons, toLower_of_isDigit hc, List.cons.injEq] at htext
    rw [← htext.1, hc] at hd
    cases hd
  simp only [Binary64.unsigned?]
  rw [hname "nan" rfl rfl, hname "inf" rfl rfl,
    hname "infinity" rfl rfl, written?_unsignedText h]
  rfl

/-- A numeral is read as the nearest number to the decimal that it is. -/
theorem ofText?_text (h : n.IsProper) :
    Binary64.ofText? n.text = some (.signed n.negative n.magnitude) := by
  obtain ⟨c, cs, hcs, hc, hsign⟩ := exists_text_eq_cons h
  have hread := unsigned?_unsignedText h n.negative
  cases hnegative : n.negative with
  | true =>
    rw [hnegative] at hread
    rw [text, if_pos hnegative]
    exact hread
  | false =>
    rw [hnegative] at hread
    have htext : n.text = n.unsignedText := by rw [text, hnegative]; rfl
    unfold Binary64.ofText?
    split
    · rename_i heq
      have hnone := hsign (List.cons.inj (hcs.symm.trans heq)).1
      rw [hnegative] at hnone
      cases hnone
    · rename_i heq
      obtain ⟨rfl, -⟩ := List.cons.inj (hcs.symm.trans heq)
      exact absurd hc (by decide)
    · rw [htext, hread]

end Json.NumberText

namespace Json

/-- A numeral has the text that a decimal is set out as, and says that decimal. -/
structure Writes (n : NumberText) (d : Decimal) (cs : List Char) : Prop where
  isProper : n.IsProper
  unsignedText : n.unsignedText = cs
  magnitude : n.magnitude = d.magnitude

/-- The digits of a decimal, those before and those behind the point, as one coefficient. -/
theorem magnitude_eq {n : NumberText} {c k : Nat} {e : Int}
    (hvalue : Numeral.value (n.whole ++ n.fraction.getD []) = c * 10 ^ k)
    (hexponent : n.writtenExponent - (n.fraction.getD []).length = e - k) :
    n.magnitude = (Decimal.mk c e).magnitude := by
  rw [NumberText.magnitude, hvalue, hexponent, Magnitude.ofDecimal_mul_pow]
  rfl

theorem value_append_zeros (c k : Nat) :
    Numeral.value (Numeral.text c ++ List.replicate k '0') = c * 10 ^ k := by
  have htext : Nat.ofDigitChars 10 (Numeral.text c) 0 = c := Numeral.value_text c
  rw [Numeral.value, Nat.ofDigitChars_append, Nat.ofDigitChars_replicate_zero, htext, mul_comm]

theorem value_zeros_append (c k : Nat) :
    Numeral.value (List.replicate k '0' ++ Numeral.text c) = c := by
  rw [Numeral.value, Nat.ofDigitChars_append, Nat.ofDigitChars_replicate_zero, Nat.mul_zero]
  exact Numeral.value_text c

/-- Some of the digits of a number and zeros. -/
theorem isDigits_of_forall {cs : List Char} {n : Nat} (hne : cs ≠ [])
    (h : ∀ c ∈ cs, c ∈ Numeral.text n ∨ c = '0') : IsDigits cs := by
  refine ⟨hne, fun c hc => ?_⟩
  rcases h c hc with htext | rfl
  · exact Numeral.isDigit_of_mem_text htext
  · rfl

theorem mem_or_eq_of_mem_append {ds : List Char} {k : Nat} {c : Char}
    (h : c ∈ ds ++ List.replicate k '0' ∨ c ∈ List.replicate k '0' ++ ds) : c ∈ ds ∨ c = '0' := by
  simp only [List.mem_append, List.mem_replicate] at h
  tauto

theorem isDigits_zero : IsDigits ['0'] :=
  ⟨by simp, by simp⟩

/-- The digits of a number other than zero do not start with a zero. -/
theorem head?_text_front_ne {c : Nat} (hc : c ≠ 0) {cs : List Char}
    (h : cs <+: Numeral.text c) : cs.head? ≠ some '0' := by
  intro hhead
  obtain ⟨ds, rfl⟩ := List.head?_eq_some_iff.1 hhead
  obtain ⟨rest, hrest⟩ := h
  exact hc (Numeral.text_eq_of_head_zero hrest.symm).1

variable {c : Nat} (negative : Bool)

theorem writes_zero (e : Int) :
    Writes ⟨negative, ['0'], some ['0'], none⟩ ⟨0, e⟩ ['0', '.', '0'] where
  isProper := by
    refine ⟨isDigits_zero, fun _ => rfl, ?_, ?_⟩
    · rintro digits ⟨⟩
      exact isDigits_zero
    · rintro _ ⟨⟩
  unsignedText := rfl
  magnitude := by
    have hvalue : Numeral.value ['0', '0'] = 0 := rfl
    simp only [NumberText.magnitude, Option.getD_some, List.cons_append, List.nil_append, hvalue,
      Decimal.magnitude, Magnitude.ofDecimal, true_or, if_true]

/-- An integer, with zeros behind its digits. -/
theorem writes_integer (hc : c ≠ 0) (k : Nat) :
    Writes ⟨negative, Numeral.text c ++ List.replicate k '0', some ['0'], none⟩ ⟨c, k⟩
      (Numeral.text c ++ List.replicate k '0' ++ ['.', '0']) where
  isProper := by
    refine ⟨?_, fun h => ?_, ?_, ?_⟩
    · exact isDigits_of_forall (by simp [Numeral.text_ne_nil]) fun d hd =>
        mem_or_eq_of_mem_append (Or.inl hd)
    · rw [List.head?_append_of_ne_nil _ (Numeral.text_ne_nil c)] at h
      exact absurd h (head?_text_front_ne hc (List.prefix_refl _))
    · rintro digits ⟨⟩
      exact isDigits_zero
    · rintro _ ⟨⟩
  unsignedText := by
    simp [NumberText.unsignedText, NumberText.fractionText, NumberText.exponentText]
  magnitude := by
    apply magnitude_eq (k := k + 1)
    · rw [← value_append_zeros, List.replicate_succ', ← List.append_assoc]
      rfl
    · simp [NumberText.writtenExponent]

/-- The point stands among the digits. -/
theorem writes_among (hc : c ≠ 0) {w : Nat} (hw : 0 < w) (hlength : w < (Numeral.text c).length) :
    Writes ⟨negative, (Numeral.text c).take w, some ((Numeral.text c).drop w), none⟩
      ⟨c, w - (Numeral.text c).length⟩
      ((Numeral.text c).take w ++ '.' :: (Numeral.text c).drop w) where
  isProper := by
    have hfront : (Numeral.text c).take w ≠ [] := by
      rw [← List.length_pos_iff, List.length_take]
      omega
    have hbehind : (Numeral.text c).drop w ≠ [] := by
      rw [← List.length_pos_iff, List.length_drop]
      omega
    refine ⟨?_, fun h => ?_, ?_, ?_⟩
    · exact isDigits_of_forall hfront fun d hd => Or.inl (List.mem_of_mem_take hd)
    · exact absurd h (head?_text_front_ne hc (List.take_prefix _ _))
    · rintro digits ⟨⟩
      exact isDigits_of_forall hbehind fun d hd => Or.inl (List.mem_of_mem_drop hd)
    · rintro _ ⟨⟩
  unsignedText := by
    simp [NumberText.unsignedText, NumberText.fractionText, NumberText.exponentText]
  magnitude := by
    apply magnitude_eq (k := 0)
    · rw [Option.getD_some, List.take_append_drop, Numeral.value_text, pow_zero, mul_one]
    · simp only [NumberText.writtenExponent, Option.getD_some, List.length_drop]
      omega

/-- The point stands before the digits. -/
theorem writes_before (c k : Nat) :
    Writes ⟨negative, ['0'], some (List.replicate k '0' ++ Numeral.text c), none⟩
      ⟨c, -(k + (Numeral.text c).length)⟩
      ('0' :: '.' :: List.replicate k '0' ++ Numeral.text c) where
  isProper := by
    refine ⟨isDigits_zero, fun _ => rfl, ?_, ?_⟩
    · rintro digits ⟨⟩
      exact isDigits_of_forall (by simp [Numeral.text_ne_nil]) fun d hd =>
        mem_or_eq_of_mem_append (Or.inr hd)
    · rintro _ ⟨⟩
  unsignedText := by
    simp [NumberText.unsignedText, NumberText.fractionText, NumberText.exponentText]
  magnitude := by
    apply magnitude_eq (k := 0)
    · rw [Option.getD_some, ← List.append_assoc, ← List.replicate_one, ← List.replicate_add,
        value_zeros_append, pow_zero, mul_one]
    · simp [NumberText.writtenExponent]

/-- One digit before the point, and an exponent that shows its sign. -/
theorem writes_scientific (hc : c ≠ 0) (e : Int) :
    Writes ⟨negative, (Numeral.text c).take 1,
        if ((Numeral.text c).drop 1).isEmpty then none else some ((Numeral.text c).drop 1),
        some ((Numeral.text c).length + e - 1 < 0,
          Numeral.text ((Numeral.text c).length + e - 1).natAbs)⟩
      ⟨c, e⟩
      ((Numeral.text c).take 1 ++
        (if ((Numeral.text c).drop 1).isEmpty then [] else '.' :: (Numeral.text c).drop 1) ++ ['e'] ++
        (if (Numeral.text c).length + e - 1 < 0 then ['-'] else ['+']) ++
        Numeral.text ((Numeral.text c).length + e - 1).natAbs) where
  isProper := by
    have hfront : (Numeral.text c).take 1 ≠ [] := by simp [Numeral.text_ne_nil]
    refine ⟨?_, fun h => ?_, ?_, ?_⟩
    · exact isDigits_of_forall hfront fun d hd => Or.inl (List.mem_of_mem_take hd)
    · exact absurd h (head?_text_front_ne hc (List.take_prefix _ _))
    · intro digits hdigits
      dsimp only at hdigits
      split_ifs at hdigits with hempty
      · cases hdigits
      · obtain rfl := Option.mem_some_iff.1 hdigits
        exact isDigits_of_forall (List.isEmpty_iff.not.1 hempty) fun d hd =>
          Or.inl (List.mem_of_mem_drop hd)
    · rintro _ ⟨⟩
      exact isDigits_text _
  unsignedText := by
    simp only [NumberText.unsignedText, NumberText.exponentText, decide_eq_true_eq]
    split_ifs <;> simp [NumberText.fractionText]
  magnitude := by
    have hfraction : (if ((Numeral.text c).drop 1).isEmpty then none
        else some ((Numeral.text c).drop 1)).getD [] = (Numeral.text c).drop 1 := by
      split_ifs with hempty
      · rw [List.isEmpty_iff.1 hempty]
        rfl
      · rfl
    apply magnitude_eq (k := 0)
    · rw [hfraction, List.take_append_drop, Numeral.value_text, pow_zero, mul_one]
    · have hlength := List.length_pos_of_ne_nil (Numeral.text_ne_nil c)
      rw [NumberText.writtenExponent_eq rfl, hfraction, List.length_drop]
      omega

/-- Digits and the exponent of the last of them are set out as a numeral for the same decimal. -/
theorem exists_writes_setOut (d : Decimal) :
    ∃ n : NumberText, n.negative = negative ∧ Writes n d (realLayout.setOut d) := by
  obtain ⟨c, e⟩ := d
  by_cases hzero : c = 0
  · subst hzero
    exact ⟨_, rfl, writes_zero negative e⟩
  have hlength : 0 < (Numeral.text c).length := List.length_pos_of_ne_nil (Numeral.text_ne_nil c)
  simp only [Binary64.Layout.setOut, realLayout, if_neg hzero]
  by_cases hplace : -5 ≤ ((Numeral.text c).length : Int) + e - 1 ∧
      ((Numeral.text c).length : Int) + e - 1 < 16
  · rw [if_pos hplace]
    split_ifs with hinteger hpoint
    · obtain ⟨k, rfl⟩ := Int.eq_ofNat_of_zero_le hinteger
      exact ⟨_, rfl, writes_integer negative hzero k⟩
    · obtain ⟨w, hw⟩ := Int.eq_ofNat_of_zero_le hpoint.le
      obtain rfl : e = w - (Numeral.text c).length := by omega
      rw [hw, Int.toNat_natCast]
      exact ⟨_, rfl, writes_among negative hzero (by omega) (by omega)⟩
    · obtain ⟨k, hk⟩ := Int.eq_ofNat_of_zero_le (by omega : 0 ≤ -((Numeral.text c).length + e))
      obtain rfl : e = -(k + (Numeral.text c).length) := by omega
      rw [hk, Int.toNat_natCast]
      exact ⟨_, rfl, writes_before negative c k⟩
  · rw [if_neg hplace]
    exact ⟨_, rfl, writes_scientific negative hzero e⟩

/-- A finite number is written as a numeral that reads back as it. -/
theorem exists_text_eq_realText {x : Binary64} (h : x.isFinite = true) :
    ∃ n : NumberText, n.IsProper ∧ n.text = realText x ∧ Binary64.ofText? n.text = some x := by
  cases x with
  | nan => cases h
  | signed negative m =>
    obtain ⟨n, hnegative, hwrites⟩ := exists_writes_setOut negative m.shortest
    have htext : n.text = realText (.signed negative m) := by
      simp only [NumberText.text, hnegative, hwrites.unsignedText, realText, Binary64.shortText?]
      rw [if_pos (show m.isFinite = true from h), Option.getD_some]
    refine ⟨n, hwrites.isProper, htext, ?_⟩
    rw [NumberText.ofText?_text hwrites.isProper, hnegative, hwrites.magnitude,
      Magnitude.magnitude_shortest h]

/-- What is not finite has no numeral. -/
theorem realText_of_not_isFinite {x : Binary64} (h : x.isFinite = false) :
    realText x = ['n', 'u', 'l', 'l'] := by
  cases x with
  | nan => rfl
  | signed negative m =>
    simp only [realText, Binary64.shortText?]
    rw [if_neg (by simpa [Binary64.isFinite] using h), Option.getD_none]

end Json

end SeriesGateway
