import SeriesGateway.Proofs.Text.Escape
import SeriesGateway.Url.Path

namespace SeriesGateway.Url

theorem keepsEscapes_escapedInPath : Percent.KeepsEscapes escapedInPath := by
  let P (c : Char) : Prop :=
    c = '%' ∨ (Percent.hexValue? c).isSome = true → Percent.encodeChar escapedInPath c = [c]
  have hsmall : ∀ n < 128, P (Char.ofNat n) := by decide
  intro c hc
  have hlt : c.toNat < 128 := by
    rcases hc with rfl | hdigit
    · decide
    · exact Percent.toNat_lt_of_hexValue? hdigit
  exact Percent.of_toNat_lt hsmall hlt hc

namespace Path

/-- Where a segment leads that is not the last one. -/
def step (done : List (List Char)) (segment : List Char) : List (List Char) :=
  if isDoubleDot segment then parent done
  else if isDot segment then done
  else done ++ [Percent.encode escapedInPath segment]

theorem resolve_cons_of_ne_nil (done : List (List Char)) (segment : List Char)
    {rest : List (List Char)} (h : rest ≠ []) :
    resolve id done (segment :: rest) = resolve id (step done segment) rest := by
  have hmore : rest.isEmpty = false := by simpa using h
  simp only [resolve, step, hmore, Bool.false_eq_true, if_false, List.append_nil, id_eq, ite_self]
  split_ifs <;> rfl

theorem resolve_append (front done : List (List Char)) {rest : List (List Char)} (h : rest ≠ []) :
    resolve id done (front ++ rest) = resolve id (front.foldl step done) rest := by
  induction front generalizing done with
  | nil => rfl
  | cons segment front ih =>
    rw [List.cons_append, resolve_cons_of_ne_nil _ _ (List.append_ne_nil_of_right_ne_nil _ h), ih,
      List.foldl_cons]

theorem resolve_of_plain (done : List (List Char)) {segments : List (List Char)}
    (h : ∀ s ∈ segments, isDot s = false ∧ isDoubleDot s = false) :
    resolve id done segments = done ++ segments.map (Percent.encode escapedInPath) := by
  induction segments generalizing done with
  | nil => simp [resolve]
  | cons segment rest ih =>
    obtain ⟨hdot, hdouble⟩ := h segment List.mem_cons_self
    rw [resolve, if_neg (by simp [hdouble]), if_neg (by simp [hdot])]
    simp only [id_eq, ite_self]
    rw [ih _ fun s hs => h s (List.mem_cons_of_mem segment hs), List.append_assoc]
    rfl

/-- A path that goes on behind a slash goes on from where the slash leads. -/
theorem segmentsOf_append {front : List Char} (h : front = [] ∨ front.getLast? = some '/') :
    ∃ done, segmentsOf true front = done ++ [[]] ∧
      ∀ back, segmentsOf true (front ++ back) =
        resolve id done (back.splitOnP (isSlash true)) := by
  have hempty (done : List (List Char)) : resolve id done [[]] = done ++ [[]] :=
    resolve_of_plain done (by simp [isDot, isDoubleDot])
  rcases h with rfl | hlast
  · exact ⟨[], hempty [], fun back => rfl⟩
  · obtain ⟨front, rfl⟩ := List.getLast?_eq_some_iff.1 hlast
    have hgoes (back : List Char) : segmentsOf true (front ++ ['/'] ++ back) =
        resolve id ((front.splitOnP (isSlash true)).foldl step [])
          (back.splitOnP (isSlash true)) := by
      rw [segmentsOf, List.append_assoc, List.singleton_append,
        List.splitOnP_append_cons _ _ (rfl : isSlash true '/' = true),
        resolve_append _ _ (List.splitOnP_ne_nil _ _)]
    refine ⟨_, ?_, hgoes⟩
    have hend := hgoes []
    rw [List.append_nil, List.splitOnP_nil, hempty] at hend
    exact hend

theorem behindAuthority_append {front : List Char} (h : front.getLast? = some '/') :
    ∃ done, behindAuthority true front = .rooted (done ++ [[]]) ∧
      ∀ back, behindAuthority true (front ++ back) =
        .rooted (resolve id done (back.splitOnP (isSlash true))) := by
  cases front with
  | nil => cases h
  | cons c front =>
    by_cases hc : isSlash true c = true
    · have hfront : front = [] ∨ front.getLast? = some '/' := by
        cases front with
        | nil => exact Or.inl rfl
        | cons d front => exact Or.inr h
      obtain ⟨done, hdone, hgoes⟩ := segmentsOf_append hfront
      refine ⟨done, ?_, fun back => ?_⟩
      · rw [behindAuthority, if_pos hc, hdone]
      · rw [List.cons_append, behindAuthority, if_pos hc, hgoes]
    · obtain ⟨done, hdone, hgoes⟩ := segmentsOf_append (Or.inr h)
      refine ⟨done, ?_, fun back => ?_⟩
      · rw [behindAuthority, if_neg hc, hdone]
      · rw [List.cons_append, behindAuthority, if_neg hc, ← List.cons_append, hgoes]

theorem mem_of_mem_parent {s : List Char} {done : List (List Char)} (h : s ∈ parent done) :
    s ∈ done := by
  unfold parent at h
  split_ifs at h
  · exact h
  · exact List.mem_of_mem_dropLast h

/-- What holds of the empty segment and of every segment that is written holds of the whole path. -/
theorem forall_mem_resolve {P : List Char → Prop} {done segments : List (List Char)} (hempty : P [])
    (hdone : ∀ s ∈ done, P s)
    (hwritten : ∀ s ∈ segments, isDot s = false → isDoubleDot s = false →
      P (Percent.encode escapedInPath s)) :
    ∀ s ∈ resolve id done segments, P s := by
  induction segments generalizing done with
  | nil => exact hdone
  | cons segment rest ih =>
    have hrest := fun s hs => hwritten s (List.mem_cons_of_mem segment hs)
    have hfinal : ∀ s ∈ (if rest.isEmpty then [[]] else []), P s := by
      split_ifs
      · simpa using hempty
      · simp
    rw [resolve]
    simp only [id_eq, ite_self]
    generalize (if rest.isEmpty then [[]] else []) = final at hfinal ⊢
    split_ifs with hdouble hdot
    · exact ih (List.forall_mem_append.2 ⟨fun s hs => hdone s (mem_of_mem_parent hs), hfinal⟩) hrest
    · exact ih (List.forall_mem_append.2 ⟨hdone, hfinal⟩) hrest
    · have hsegment := hwritten segment List.mem_cons_self (by simpa using hdot)
        (by simpa using hdouble)
      exact ih (List.forall_mem_append.2 ⟨hdone, by simpa using hsegment⟩) hrest

theorem of_mem_splitOnP {p : Char → Bool} {cs s : List Char} (h : s ∈ cs.splitOnP p) :
    s.Sublist cs ∧ ∀ c ∈ s, p c = false := by
  induction cs generalizing s with
  | nil =>
    rw [List.splitOnP_nil, List.mem_singleton] at h
    subst h
    exact ⟨List.Sublist.refl _, by simp⟩
  | cons c cs ih =>
    obtain ⟨first, later, hsplit⟩ := List.exists_cons_of_ne_nil (List.splitOnP_ne_nil p cs)
    rw [List.splitOnP_cons_eq_if_modifyHead] at h
    split_ifs at h with hc
    · rcases List.mem_cons.1 h with rfl | hlater
      · exact ⟨List.nil_sublist _, by simp⟩
      · obtain ⟨hsub, hall⟩ := ih hlater
        exact ⟨hsub.cons c, hall⟩
    · rw [hsplit, List.modifyHead_cons] at h
      rcases List.mem_cons.1 h with rfl | hlater
      · obtain ⟨hsub, hall⟩ := ih (hsplit ▸ List.mem_cons_self)
        exact ⟨hsub.cons_cons c, List.forall_mem_cons.2 ⟨by simpa using hc, hall⟩⟩
      · obtain ⟨hsub, hall⟩ := ih (hsplit ▸ List.mem_cons_of_mem _ hlater)
        exact ⟨hsub.cons c, hall⟩
end Path

end SeriesGateway.Url
