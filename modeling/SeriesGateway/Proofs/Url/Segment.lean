import SeriesGateway.Proofs.Url.Path
import SeriesGateway.Proofs.Url.Web

namespace SeriesGateway.Url.Path

/-- A text that stands in a path as one segment, and reads there as itself. -/
structure IsPlain (cs : List Char) : Prop where
  whole : ∀ c ∈ cs, c ∉ ['/', '\\', '\t', '\n', '\r']
  unescaped : ¬Percent.HasEscape cs
  no_dots : cs ≠ ['.'] ∧ cs ≠ ['.', '.']

instance (cs : List Char) : Decidable (IsPlain cs) :=
  decidable_of_iff (cs.all (fun c => c ∉ ['/', '\\', '\t', '\n', '\r']) = true ∧
      Percent.decode cs = Utf8.encode cs ∧ cs ≠ ['.'] ∧ cs ≠ ['.', '.'])
    ⟨fun ⟨whole, reads, no_dots⟩ =>
        ⟨by simpa using whole, Percent.decode_eq_encode_iff.1 reads, no_dots⟩,
      fun h => ⟨by simpa using h.whole, Percent.decode_eq_encode_iff.2 h.unescaped, h.no_dots⟩⟩

theorem eq_of_toLower {c d : Char} (h : c.toLower = d) (hd : d.isAlpha = false) : c = d := by
  have halpha : c.isAlpha = false := by rw [← Char.isAlpha_toLower_eq_isAlpha, h, hd]
  have hupper : ¬c.isUpper = true := by
    intro hupper
    rw [Char.isAlpha, hupper] at halpha
    cases halpha
  rw [← h, Char.toLower_eq_of_not_isUpper hupper]

theorem isSome_hexValue?_of_toLower {c : Char} (h : c.toLower = 'e') :
    (Percent.hexValue? c).isSome = true := by
  by_cases hupper : c.isUpper = true
  · have hlarge : 65 ≤ c.toNat ∧ c.toNat ≤ 90 := by
      simpa [Char.isUpper, UInt32.le_iff_toNat_le, ← Char.toNat_val] using hupper
    let P (c : Char) : Prop := c.toLower = 'e' → (Percent.hexValue? c).isSome = true
    have hsmall : ∀ n < 91, P (Char.ofNat n) := by decide
    exact Percent.of_toNat_lt hsmall (by omega) h
  · rw [Char.toLower_eq_of_not_isUpper hupper] at h
    subst h
    rfl

/-- A dot may be escaped with a letter of either size. -/
theorem hasEscape_of_small {cs : List Char} (h : ['%', '2', 'e'] <:+: cs.map Char.toLower) :
    Percent.HasEscape cs := by
  obtain ⟨front, back, hcs⟩ := h
  obtain ⟨start, back, rfl, hstart, -⟩ := List.map_eq_append_iff.1 hcs.symm
  obtain ⟨front, dot, rfl, -, hdot⟩ := List.map_eq_append_iff.1 hstart
  obtain ⟨mark, dot, rfl, hmark, hdot⟩ := List.map_eq_cons_iff.1 hdot
  obtain ⟨high, dot, rfl, hhigh, hdot⟩ := List.map_eq_cons_iff.1 hdot
  obtain ⟨low, dot, rfl, hlow, hdot⟩ := List.map_eq_cons_iff.1 hdot
  obtain rfl := List.map_eq_nil_iff.1 hdot
  obtain rfl := eq_of_toLower hmark rfl
  obtain rfl := eq_of_toLower hhigh rfl
  exact ⟨'2', low, rfl, isSome_hexValue?_of_toLower hlow, front, back, rfl⟩

theorem eq_of_isDot {cs : List Char} (h : isDot cs = true) : cs = ['.'] ∨ Percent.HasEscape cs := by
  simp only [isDot, Bool.or_eq_true, beq_iff_eq] at h
  rcases h with hdot | hescaped
  · obtain ⟨c, rest, rfl, hc, hrest⟩ := List.map_eq_cons_iff.1 hdot
    obtain rfl := List.map_eq_nil_iff.1 hrest
    exact Or.inl (by rw [eq_of_toLower hc rfl])
  · exact Or.inr (hasEscape_of_small (by rw [hescaped]))

theorem eq_of_isDoubleDot {cs : List Char} (h : isDoubleDot cs = true) :
    cs = ['.', '.'] ∨ Percent.HasEscape cs := by
  simp only [isDoubleDot, Bool.or_eq_true, beq_iff_eq] at h
  rcases h with ((hdots | hlast) | hfirst) | hboth
  · obtain ⟨c, rest, rfl, hc, hrest⟩ := List.map_eq_cons_iff.1 hdots
    obtain ⟨d, rest, rfl, hd, hrest⟩ := List.map_eq_cons_iff.1 hrest
    obtain rfl := List.map_eq_nil_iff.1 hrest
    exact Or.inl (by rw [eq_of_toLower hc rfl, eq_of_toLower hd rfl])
  · exact Or.inr (hasEscape_of_small (by rw [hlast]; exact ⟨['.'], [], rfl⟩))
  · exact Or.inr (hasEscape_of_small (by rw [hfirst]; exact ⟨[], ['.'], rfl⟩))
  · exact Or.inr (hasEscape_of_small (by rw [hboth]; exact ⟨[], ['%', '2', 'e'], rfl⟩))

namespace IsPlain

variable {cs : List Char}

theorem isDot (h : IsPlain cs) : Path.isDot cs = false := by
  by_contra hdot
  rcases eq_of_isDot (by simpa using hdot) with hone | hescape
  · exact h.no_dots.1 hone
  · exact h.unescaped hescape

theorem isDoubleDot (h : IsPlain cs) : Path.isDoubleDot cs = false := by
  by_contra hdots
  rcases eq_of_isDoubleDot (by simpa using hdots) with htwo | hescape
  · exact h.no_dots.2 htwo
  · exact h.unescaped hescape

theorem isSlash (h : IsPlain cs) : ∀ c ∈ cs, Path.isSlash true c = false := by
  intro c hc
  have hmarks := h.whole c hc
  simp only [List.mem_cons, not_or] at hmarks
  simp [Path.isSlash, hmarks]

theorem unbroken_eq (h : IsPlain cs) : unbroken cs = cs := by
  rw [unbroken, List.filter_eq_self]
  intro c hc
  have hmarks := h.whole c hc
  simp only [List.mem_cons, not_or] at hmarks
  simp [hmarks]

theorem decode_encode (h : IsPlain cs) :
    Percent.decode (Percent.encode escapedInPath cs) = Utf8.encode cs := by
  rw [Percent.decode_encode keepsEscapes_escapedInPath, Percent.decode_eq_encode_iff]
  exact h.unescaped

end IsPlain

theorem splitOnP_flatMap {p : Char → Bool} (hslash : p '/' = true) {first : List Char}
    {others : List (List Char)} (h : ∀ s ∈ first :: others, ∀ c ∈ s, p c = false) :
    (first ++ others.flatMap ('/' :: ·)).splitOnP p = first :: others := by
  induction others generalizing first with
  | nil => rw [List.flatMap_nil, List.append_nil, List.splitOnP_eq_singleton (h first (by simp))]
  | cons next others ih =>
    rw [List.flatMap_cons, List.cons_append,
      List.splitOnP_append_cons_of_forall_mem (h first (by simp)) _ hslash,
      ih fun s hs => h s (List.mem_cons_of_mem first hs)]

theorem unbroken_flatMap {first : List Char} {others : List (List Char)}
    (h : ∀ s ∈ first :: others, IsPlain s) :
    unbroken (first ++ others.flatMap ('/' :: ·)) = first ++ others.flatMap ('/' :: ·) := by
  induction others generalizing first with
  | nil => rw [List.flatMap_nil, List.append_nil, (h first (by simp)).unbroken_eq]
  | cons next others ih =>
    have hrest := ih fun s hs => h s (List.mem_cons_of_mem first hs)
    rw [unbroken_append, (h first (by simp)).unbroken_eq, List.flatMap_cons, List.cons_append]
    exact congrArg (first ++ '/' :: ·) hrest

/-- Plain texts are segments of their path, behind those that there are. -/
theorem resolve_of_isPlain (done : List (List Char)) {first : List Char}
    {others : List (List Char)} (h : ∀ s ∈ first :: others, IsPlain s) :
    resolve id done
        ((unbroken (first ++ others.flatMap ('/' :: ·))).splitOnP (Path.isSlash true)) =
      done ++ (first :: others).map (Percent.encode escapedInPath) := by
  rw [unbroken_flatMap h, splitOnP_flatMap rfl fun s hs => (h s hs).isSlash,
    resolve_of_plain done fun s hs => ⟨(h s hs).isDot, (h s hs).isDoubleDot⟩]

theorem segmentsOf_of_isPlain {first : List Char} {others : List (List Char)}
    (h : ∀ s ∈ first :: others, IsPlain s) :
    segmentsOf true (unbroken (first ++ others.flatMap ('/' :: ·))) =
      (first :: others).map (Percent.encode escapedInPath) :=
  resolve_of_isPlain [] h

theorem eq_of_sublist_of_decode {s cs : List Char} (hsub : s.Sublist cs)
    (h : Percent.decode s = Utf8.encode cs) : s = cs := by
  have hbytes : (Utf8.encode s).Sublist (Utf8.encode cs) := hsub.flatMap _
  have hlength : (Utf8.encode cs).length ≤ (Utf8.encode s).length :=
    h ▸ Percent.length_decode_le s
  have hencoded := congrArg Utf8.decode? (hbytes.eq_of_length_le hlength)
  rwa [Utf8.decode?_encode, Utf8.decode?_encode, Option.some.injEq] at hencoded

/-- Only a plain text has a segment that reads as the whole text. What is read from a segment is no
longer than what stood there, so nothing of the text was lost before. -/
theorem isPlain_of_mem_segmentsOf {cs segment : List Char}
    (hmem : segment ∈ segmentsOf true (unbroken cs))
    (hdecode : Percent.decode segment = Utf8.encode cs) : IsPlain cs := by
  let P (segment : List Char) : Prop :=
    segment = [] ∨ ∃ s ∈ (unbroken cs).splitOnP (Path.isSlash true),
      Path.isDot s = false ∧ Path.isDoubleDot s = false ∧
        segment = Percent.encode escapedInPath s
  have hall : ∀ s ∈ segmentsOf true (unbroken cs), P s :=
    forall_mem_resolve (Or.inl rfl) (by simp) fun s hs hdot hdouble =>
      Or.inr ⟨s, hs, hdot, hdouble, rfl⟩
  rcases hall segment hmem with rfl | ⟨s, hs, hdot, hdouble, rfl⟩
  · obtain rfl : [] = cs := eq_of_sublist_of_decode (List.nil_sublist cs) hdecode
    refine ⟨by simp, ?_, by simp⟩
    rintro ⟨high, low, -, -, hinfix⟩
    cases List.infix_nil.1 hinfix
  · rw [Percent.decode_encode keepsEscapes_escapedInPath] at hdecode
    obtain ⟨hsub, hslash⟩ := of_mem_splitOnP hs
    have hfilter : (unbroken cs).Sublist cs := List.filter_sublist
    obtain rfl := eq_of_sublist_of_decode (hsub.trans hfilter) hdecode
    have hunbroken : unbroken s = s := hfilter.eq_of_length_le hsub.length_le
    refine ⟨?_, Percent.decode_eq_encode_iff.1 hdecode, ?_, ?_⟩
    · intro c hc
      have hbreak := List.filter_eq_self.1 hunbroken c hc
      have hpart := hslash c hc
      simp only [Path.isSlash, Bool.true_and, Bool.or_eq_false_iff, beq_eq_false_iff_ne, ne_eq,
        Bool.and_eq_true, bne_iff_ne] at hbreak hpart
      simp [hbreak, hpart]
    · rintro rfl
      cases hdot
    · rintro rfl
      cases hdouble

end SeriesGateway.Url.Path
