import Mathlib
import SeriesGateway.Proofs.Text.Percent

namespace SeriesGateway.Percent

/-- A text has an escape where two hexadecimal digits stand behind a `%`. -/
def HasEscape (cs : List Char) : Prop :=
  ∃ high low, (hexValue? high).isSome = true ∧ (hexValue? low).isSome = true ∧
    ['%', high, low] <:+: cs

/-- A text starts as what stands behind the mark of an escape. -/
def StartsHex (cs : List Char) : Prop :=
  ∃ high low rest, (hexValue? high).isSome = true ∧ (hexValue? low).isSome = true ∧
    cs = high :: low :: rest

theorem hasEscape_cons {c : Char} {cs : List Char} :
    HasEscape (c :: cs) ↔ c = '%' ∧ StartsHex cs ∨ HasEscape cs := by
  constructor
  · rintro ⟨high, low, hhigh, hlow, hinfix⟩
    rcases List.infix_cons_iff.1 hinfix with ⟨rest, hprefix⟩ | hrest
    · cases hprefix
      exact Or.inl ⟨rfl, high, low, rest, hhigh, hlow, rfl⟩
    · exact Or.inr ⟨high, low, hhigh, hlow, hrest⟩
  · rintro (⟨rfl, high, low, rest, hhigh, hlow, rfl⟩ | ⟨high, low, hhigh, hlow, hinfix⟩)
    · exact ⟨high, low, hhigh, hlow, [], rest, rfl⟩
    · exact ⟨high, low, hhigh, hlow, hinfix.trans (List.infix_cons (List.infix_refl cs))⟩

theorem decode_cons_of_not_escape {c : Char} {cs : List Char} (h : ¬(c = '%' ∧ StartsHex cs)) :
    decode (c :: cs) = Utf8.encode [c] ++ decode cs := by
  by_cases hc : c = '%'
  · subst hc
    match cs with
    | [] => rfl
    | [d] => rfl
    | high :: low :: rest =>
      rw [decode]
      split
      · rename_i hhigh hlow
        exact absurd ⟨rfl, high, low, rest, by rw [hhigh]; rfl, by rw [hlow]; rfl, rfl⟩ h
      · rfl
  · exact decode_cons_of_ne hc cs

theorem decode_escape {high low : Char} {h l : Nat} (hhigh : hexValue? high = some h)
    (hlow : hexValue? low = some l) (rest : List Char) :
    decode ('%' :: high :: low :: rest) = UInt8.ofNat (16 * h + l) :: decode rest := by
  rw [decode, hhigh, hlow]

/-- Texts are read from the left, an escape or another character at a time. -/
theorem escape_induction {motive : List Char → Prop} (nil : motive [])
    (escape : ∀ high low h l rest, hexValue? high = some h → hexValue? low = some l →
      motive rest → motive ('%' :: high :: low :: rest))
    (other : ∀ c rest, ¬(c = '%' ∧ StartsHex rest) → motive rest → motive (c :: rest))
    (cs : List Char) : motive cs := by
  induction cs using decode.induct with
  | case1 => exact nil
  | case2 high low rest h l hlow hhigh ih => exact escape high low h l rest hhigh hlow ih
  | case3 high low rest hnone ih =>
    refine other '%' _ ?_ ih
    rintro ⟨-, high, low, rest, hhigh, hlow, heq⟩
    cases heq
    obtain ⟨h, hh⟩ := Option.isSome_iff_exists.1 hhigh
    obtain ⟨l, hl⟩ := Option.isSome_iff_exists.1 hlow
    exact hnone h l hh hl
  | case4 c rest hnone ih =>
    refine other c rest ?_ ih
    rintro ⟨rfl, high, low, rest, -, -, rfl⟩
    exact hnone high low rest rfl rfl

theorem length_encode_cons (c : Char) (cs : List Char) :
    (Utf8.encode cs).length < (Utf8.encode (c :: cs)).length := by
  have hpos := Char.utf8Size_pos c
  simp only [Utf8.encode, List.flatMap_cons, List.length_append, String.length_utf8EncodeChar]
  omega

/-- A text without escapes reads as its own bytes, and one with an escape as fewer. -/
def ReadsShorter (cs : List Char) : Prop :=
  ¬HasEscape cs ∧ decode cs = Utf8.encode cs ∨
    HasEscape cs ∧ (decode cs).length < (Utf8.encode cs).length

theorem ReadsShorter.length_le {cs : List Char} (h : ReadsShorter cs) :
    (decode cs).length ≤ (Utf8.encode cs).length := by
  rcases h with ⟨-, heq⟩ | ⟨-, hlt⟩
  · exact heq ▸ le_rfl
  · exact hlt.le

theorem ReadsShorter.cons {c : Char} {cs : List Char} (h : ReadsShorter cs)
    (hc : ¬(c = '%' ∧ StartsHex cs)) : ReadsShorter (c :: cs) := by
  rw [ReadsShorter, hasEscape_cons, decode_cons_of_not_escape hc, Utf8.encode_cons c cs]
  rcases h with ⟨hnone, heq⟩ | ⟨hescape, hlt⟩
  · exact Or.inl ⟨not_or.2 ⟨hc, hnone⟩, by rw [heq]⟩
  · refine Or.inr ⟨Or.inr hescape, ?_⟩
    rw [List.length_append, List.length_append]
    omega

theorem readsShorter (cs : List Char) : ReadsShorter cs := by
  induction cs using escape_induction with
  | nil =>
    refine Or.inl ⟨?_, rfl⟩
    rintro ⟨high, low, -, -, hinfix⟩
    cases List.infix_nil.1 hinfix
  | escape high low h l rest hhigh hlow ih =>
    have hstarts : StartsHex (high :: low :: rest) :=
      ⟨high, low, rest, by rw [hhigh]; rfl, by rw [hlow]; rfl, rfl⟩
    refine Or.inr ⟨hasEscape_cons.2 (Or.inl ⟨rfl, hstarts⟩), ?_⟩
    have hle := ih.length_le
    have hlowSize := length_encode_cons low rest
    have hhighSize := length_encode_cons high (low :: rest)
    have hmarkSize := length_encode_cons '%' (high :: low :: rest)
    rw [decode_escape hhigh hlow, List.length_cons]
    omega
  | other c rest hc ih => exact ih.cons hc

theorem length_decode_le (cs : List Char) : (decode cs).length ≤ (Utf8.encode cs).length :=
  (readsShorter cs).length_le

theorem decode_eq_encode_iff {cs : List Char} : decode cs = Utf8.encode cs ↔ ¬HasEscape cs := by
  rcases readsShorter cs with ⟨hnone, heq⟩ | ⟨hescape, hlt⟩
  · exact iff_of_true heq hnone
  · exact iff_of_false (fun heq => hlt.ne (congrArg List.length heq)) (not_not.2 hescape)

theorem encodeChar_eq (escaped : Char → Bool) (c : Char) :
    encodeChar escaped c = [c] ∨ ∃ rest, encodeChar escaped c = '%' :: rest := by
  unfold encodeChar
  split_ifs
  · exact Or.inl rfl
  · refine Or.inr ?_
    cases hbytes : Utf8.encode [c] with
    | nil =>
      have hpos := length_encode_cons c []
      rw [hbytes] at hpos
      cases hpos
    | cons b bytes => exact ⟨_, rfl⟩

theorem exists_cons_of_encode {escaped : Char → Bool} {cs rest : List Char} {d : Char}
    (h : encode escaped cs = d :: rest) (hd : d ≠ '%') :
    ∃ left, cs = d :: left ∧ rest = encode escaped left := by
  cases cs with
  | nil => cases h
  | cons c left =>
    rw [encode, List.flatMap_cons] at h
    rcases encodeChar_eq escaped c with hc | ⟨behind, hc⟩
    · rw [hc] at h
      cases h
      exact ⟨left, rfl, rfl⟩
    · rw [hc] at h
      exact absurd (List.cons.inj h).1.symm hd

theorem ne_percent_of_hexValue? {c : Char} (h : (hexValue? c).isSome = true) : c ≠ '%' := by
  rintro rfl
  cases h

/-- What holds of the characters below a bound is seen one by one. -/
theorem of_toNat_lt {bound : Nat} {P : Char → Prop} (h : ∀ n < bound, P (Char.ofNat n)) {c : Char}
    (hc : c.toNat < bound) : P c := by
  have hnumber := h c.toNat hc
  rwa [Char.ofNat_toNat] at hnumber

theorem toNat_lt_of_hexValue? {c : Char} (h : (hexValue? c).isSome = true) : c.toNat < 128 := by
  unfold hexValue? at h
  split_ifs at h with hdigit hsmall hlarge
  · exact Nat.lt_of_le_of_lt (hdigit.2 : c.toNat ≤ 57) (by decide)
  · exact Nat.lt_of_le_of_lt (hsmall.2 : c.toNat ≤ 102) (by decide)
  · exact Nat.lt_of_le_of_lt (hlarge.2 : c.toNat ≤ 70) (by decide)
  · cases h

theorem startsHex_of_encode {escaped : Char → Bool} {cs : List Char}
    (h : StartsHex (encode escaped cs)) : StartsHex cs := by
  obtain ⟨high, low, rest, hhigh, hlow, hcs⟩ := h
  obtain ⟨left, rfl, hleft⟩ := exists_cons_of_encode hcs (ne_percent_of_hexValue? hhigh)
  obtain ⟨left, rfl, -⟩ := exists_cons_of_encode hleft.symm (ne_percent_of_hexValue? hlow)
  exact ⟨high, low, left, hhigh, hlow, rfl⟩

/-- The set leaves marks of escapes and their digits as they are. -/
def KeepsEscapes (escaped : Char → Bool) : Prop :=
  ∀ c, c = '%' ∨ (hexValue? c).isSome = true → encodeChar escaped c = [c]

/-- Escaping adds nothing to what a text is read as. -/
theorem decode_encode {escaped : Char → Bool} (h : KeepsEscapes escaped) (cs : List Char) :
    decode (encode escaped cs) = decode cs := by
  induction cs using escape_induction with
  | nil => rfl
  | escape high low hv lv rest hhigh hlow ih =>
    have hdigit {c : Char} {n : Nat} (hc : hexValue? c = some n) : encodeChar escaped c = [c] :=
      h c (Or.inr (by rw [hc]; rfl))
    rw [encode, List.flatMap_cons, List.flatMap_cons, List.flatMap_cons, h '%' (Or.inl rfl),
      hdigit hhigh, hdigit hlow, decode_escape hhigh hlow, ← ih]
    exact decode_escape hhigh hlow _
  | other c rest hc ih =>
    rw [encode, List.flatMap_cons, decode_cons_of_not_escape hc, ← ih]
    by_cases hmark : c = '%'
    · subst hmark
      rw [h '%' (Or.inl rfl)]
      exact decode_cons_of_not_escape fun hs => hc ⟨rfl, startsHex_of_encode hs.2⟩
    · exact decode_encodeChar_of_ne hmark escaped _

end SeriesGateway.Percent
