import SeriesGateway.Json.Value
import SeriesGateway.Proofs.Json.Raw
import SeriesGateway.Proofs.Ordered

namespace SeriesGateway.Json

/-- Plain characters stand for themselves. -/
theorem unescape?_of_isPlain {source : List Char} (h : IsPlain source) :
    unescape? source = some source := by
  induction source with
  | nil => rfl
  | cons c source ih =>
    have hslash := (h c List.mem_cons_self).2.1
    rw [unescape?.eq_def]
    split
    · rename_i heq
      cases heq
    · rename_i heq
      exact absurd (List.cons.inj heq).1 hslash
    · rename_i heq
      exact absurd (List.cons.inj heq).1 hslash
    · rename_i heq
      obtain ⟨rfl, rfl⟩ := List.cons.inj heq
      rw [ih fun d hd => h d (List.mem_cons_of_mem _ hd)]
      rfl

theorem Raw.text?_of_isPlain {source : List Char} (h : IsPlain source) :
    Raw.text? source = some (.ofList source) := by
  rw [Raw.text?, unescape?_of_isPlain h]
  rfl

/-- A decimal needs no escape. -/
theorem isPlain_intText (n : Int) : IsPlain (Numeral.intText n) := by
  intro c hc
  rcases Numeral.isDigit_or_eq_minus_of_mem_intText hc with hdigit | rfl
  · refine ⟨?_, ?_, ?_⟩
    · rintro rfl
      cases hdigit
    · rintro rfl
      cases hdigit
    · simp only [Char.isDigit, Bool.and_eq_true, decide_eq_true_eq] at hdigit
      have : 48 ≤ c.toNat := hdigit.1
      omega
  · decide

/-- The numeral of an integer that fits 64 bits, with or without sign, means that integer. -/
theorem NumberText.value?_ofInt {n : Int} (hlow : -0x8000000000000000 ≤ n)
    (hhigh : n ≤ 0xFFFFFFFFFFFFFFFF) : (NumberText.ofInt n).value? = some (.integer n) := by
  rw [NumberText.value?]
  simp only [NumberText.ofInt, Option.isSome_none, Bool.or_self, Bool.false_eq_true, if_false,
    Numeral.value_text, decide_eq_true_eq]
  split
  · rename_i hnegative
    rw [if_pos (by omega)]
    congr 2
    omega
  · rw [if_pos (by rw [NumberText.greatestWord]; omega)]
    congr 2
    omega

/-- Under a name the last of its members is found, whatever the others are. -/
theorem Value.member?_object_ofList (name : String) (members : List (String × Value)) :
    (Value.object (Ordered.ofList members)).member? name = members.reverse.lookup name :=
  Ordered.lookup_ofList name members

end SeriesGateway.Json
