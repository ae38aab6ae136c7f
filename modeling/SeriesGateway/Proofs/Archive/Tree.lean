import Mathlib
import SeriesGateway.Archive.Tree

namespace SeriesGateway.Tree

variable {t u : Tree} {p q : Place}

theorem lookup_filter_of_ne (entries : List (Place × Entry)) (h : q ≠ p) :
    (entries.filter fun entry => entry.1 != p).lookup q = entries.lookup q := by
  induction entries with
  | nil => rfl
  | cons entry rest ih =>
    obtain ⟨r, e⟩ := entry
    by_cases hr : r = p
    · subst hr
      rw [List.filter_cons_of_neg (by simp), ih, List.lookup_cons, beq_false_of_ne h]
    · rw [List.filter_cons_of_pos (by simpa using hr), List.lookup_cons, List.lookup_cons, ih]

theorem lookup_filter_self (entries : List (Place × Entry)) :
    (entries.filter fun entry => entry.1 != p).lookup p = none := by
  rw [List.lookup_eq_none_iff]
  intro entry hentry
  have hne := (List.mem_filter.1 hentry).2
  rw [bne_iff_ne] at hne ⊢
  exact hne.symm

theorem find?_erase_of_ne (t : Tree) (h : q ≠ p) : (t.erase p).find? q = t.find? q := by
  rw [find?, find?, erase, lookup_filter_of_ne _ h]

theorem find?_erase_self (t : Tree) (h : p ≠ []) : (t.erase p).find? p = none := by
  rw [find?, if_neg h, erase, lookup_filter_self]

theorem find?_put_of_ne (t : Tree) (e : Entry) (h : q ≠ p) : (t.put p e).find? q = t.find? q := by
  rw [← find?_erase_of_ne t h, find?, find?, put]
  simp [List.lookup_append, List.lookup_cons, beq_false_of_ne h]

theorem find?_put_self (t : Tree) (e : Entry) (h : p ≠ []) : (t.put p e).find? p = some e := by
  have hnone := t.find?_erase_self h
  rw [find?, if_neg h] at hnone
  rw [find?, if_neg h, put]
  simp [List.lookup_append, hnone]

/-- The same files with the same contents, whatever directories there are. -/
def SameFiles (t u : Tree) : Prop :=
  ∀ q content, t.find? q = some (.file content) ↔ u.find? q = some (.file content)

theorem SameFiles.refl (t : Tree) : t.SameFiles t :=
  fun _ _ => Iff.rfl

theorem SameFiles.trans {v : Tree} (h : t.SameFiles u) (hu : u.SameFiles v) : t.SameFiles v :=
  fun q content => (h q content).trans (hu q content)

/-- A directory is put only where nothing is. -/
theorem sameFiles_put_directory (h : t.find? p = none) : t.SameFiles (t.put p .directory) := by
  intro q content
  by_cases hq : q = p
  · subst hq
    have hne : q ≠ [] := by
      rintro rfl
      cases h
    rw [h, find?_put_self t _ hne]
    simp
  · rw [find?_put_of_ne t _ hq]

theorem sameFiles_enter (t : Tree) (here : Place) (step : String) :
    t.SameFiles (t.enter here step).2 := by
  unfold enter
  dsimp only
  split_ifs
  · exact .refl t
  · exact .refl t
  · split
    · exact .refl t
    · exact .refl t
    · rename_i hnone
      exact sameFiles_put_directory hnone

theorem sameFiles_enterAll (t : Tree) (here : Place) (steps : List String) :
    t.SameFiles (t.enterAll here steps).2 := by
  induction steps generalizing t here with
  | nil => exact .refl t
  | cons step rest ih =>
    have henter := t.sameFiles_enter here step
    unfold enterAll
    split
    · rename_i next grown heq
      rw [heq] at henter
      exact henter.trans (ih grown next)
    · rename_i grown heq
      rw [heq] at henter
      exact henter

/-- A file is made by emptying its place in a tree of the same files, or not at all. -/
theorem create_cases (t : Tree) (home : Place) (path : PathText) :
    (∃ grown, t.create home path = (false, grown) ∧ t.SameFiles grown) ∨
      ∃ grown, t.create home path = (true, grown.put (path.place home) (.file .empty)) ∧
        t.SameFiles grown ∧ path.place home ≠ [] := by
  have hgrown := t.sameFiles_enterAll (path.origin home) path.parents
  unfold create
  by_cases hnul : path.parents.any PathText.hasNul = true
  · rw [if_pos hnul]
    exact Or.inl ⟨t, rfl, .refl t⟩
  rw [if_neg hnul]
  rcases henter : t.enterAll (path.origin home) path.parents with ⟨_ | here, grown⟩ <;>
    rw [henter] at hgrown
  · exact Or.inl ⟨grown, rfl, hgrown⟩
  · dsimp only
    split_ifs with hname
    · exact Or.inl ⟨grown, rfl, hgrown⟩
    · split
      · exact Or.inl ⟨grown, rfl, hgrown⟩
      · rename_i hplace
        refine Or.inr ⟨grown, rfl, hgrown, ?_⟩
        intro hroot
        rw [hroot] at hplace
        exact hplace rfl

end SeriesGateway.Tree
