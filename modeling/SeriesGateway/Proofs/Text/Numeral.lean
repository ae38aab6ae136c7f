import Mathlib
import SeriesGateway.Text.Numeral

namespace SeriesGateway.Numeral

/-- A text of digits starts with one, so neither sign stands before it. -/
theorem exists_text_eq_cons (n : Nat) : ∃ c cs, text n = c :: cs ∧ c.isDigit = true := by
  cases h : text n with
  | nil => exact absurd h (text_ne_nil n)
  | cons c cs => exact ⟨c, cs, rfl, isDigit_of_mem_text (h ▸ List.mem_cons_self)⟩

/-- Only zero is written with a leading zero. -/
theorem text_eq_of_head_zero {n : Nat} {cs : List Char} (h : text n = '0' :: cs) :
    n = 0 ∧ cs = [] := by
  induction n using Nat.strong_induction_on generalizing cs with
  | _ n ih =>
    rcases Nat.lt_or_ge n 10 with hlt | hge
    · have hdigit : text n = [n.digitChar] := Nat.toDigits_of_lt_base hlt
      rw [hdigit] at h
      obtain ⟨hc, hcs⟩ := List.cons.inj h
      refine ⟨?_, hcs.symm⟩
      interval_cases n <;> simp_all
    · have hsplit : text n = text (n / 10) ++ [(n % 10).digitChar] :=
        Nat.toDigits_of_base_le (by decide) hge
      obtain ⟨c, ds, hds, -⟩ := exists_text_eq_cons (n / 10)
      rw [hsplit, hds, List.cons_append] at h
      obtain ⟨rfl, -⟩ := List.cons.inj h
      have := (ih (n / 10) (by omega) hds).1
      omega

theorem signed?_text (n : Nat) : signed? (text n) = some (n : Int) := by
  obtain ⟨c, cs, hcs, hc⟩ := exists_text_eq_cons n
  have hn : natural? (c :: cs) = some n := hcs ▸ natural?_text n
  rw [hcs]
  unfold signed?
  split
  · rename_i heq
    obtain ⟨rfl, -⟩ := List.cons.inj heq
    cases hc
  · rename_i heq
    obtain ⟨rfl, -⟩ := List.cons.inj heq
    cases hc
  · rw [hn]
    rfl

theorem signed?_intText (n : Int) : signed? (intText n) = some n := by
  cases n with
  | ofNat n => exact signed?_text n
  | negSucc n =>
    simp only [intText, signed?, natural?_text, Option.map_some]
    rfl

theorem intText_injective : Function.Injective intText := by
  intro a b h
  have := congrArg signed? h
  rw [signed?_intText, signed?_intText] at this
  exact Option.some.inj this

theorem text_injective : Function.Injective text :=
  fun _ _ h => Int.ofNat.inj (intText_injective h)

theorem int64?_intText (t : Int64) : int64? (intText t.toInt) = some t := by
  have hl : -0x8000000000000000 ≤ t.toInt := t.le_toInt
  have hu : t.toInt < 0x8000000000000000 := t.toInt_lt
  simp [int64?, signed?_intText, hl, hu]

theorem intText_ne_nil (n : Int) : intText n ≠ [] := by
  cases n with
  | ofNat n => exact text_ne_nil n
  | negSucc n => exact List.cons_ne_nil _ _

theorem not_mem_text {c : Char} (hc : c.isDigit = false) (n : Nat) : c ∉ text n := by
  intro h
  rw [isDigit_of_mem_text h] at hc
  cases hc

/-- The characters of a plain decimal. -/
theorem isDigit_or_eq_minus_of_mem_intText {n : Int} {c : Char} (h : c ∈ intText n) :
    c.isDigit = true ∨ c = '-' := by
  cases n with
  | ofNat n => exact Or.inl (isDigit_of_mem_text h)
  | negSucc n =>
    rcases List.mem_cons.1 h with rfl | hm
    · exact Or.inr rfl
    · exact Or.inl (isDigit_of_mem_text hm)

/-- A sign stands only in front. -/
theorem isDigit_of_mem_tail_intText {n : Int} {c : Char} (h : c ∈ (intText n).tail) :
    c.isDigit = true := by
  cases n with
  | ofNat n => exact isDigit_of_mem_text (List.mem_of_mem_tail h)
  | negSucc n => exact isDigit_of_mem_text h

theorem utf8Size_of_isDigit {c : Char} (h : c.isDigit = true) : c.utf8Size = 1 := by
  simp only [Char.isDigit, Bool.and_eq_true, decide_eq_true_eq] at h
  exact Char.utf8Size_eq_one_iff.2 (UInt32.le_trans h.2 (by decide))

theorem length_text_le_iff (n k : Nat) : (text n).length ≤ k + 1 ↔ n < 10 ^ (k + 1) :=
  Nat.length_toDigits_le_iff (by decide) k.succ_pos

end SeriesGateway.Numeral
