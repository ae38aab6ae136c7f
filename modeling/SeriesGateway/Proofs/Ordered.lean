import Mathlib
import SeriesGateway.Json.Value

namespace SeriesGateway.Ordered

section Lookup

variable {κ α : Type} [DecidableEq κ]

theorem lookup_cons_eq_if (k key : κ) (value : α) (rest : List (κ × α)) :
    ((key, value) :: rest).lookup k = if k = key then some value else rest.lookup k := by
  by_cases h : k = key
  · subst h
    simp
  · have hb : (k == key) = false := by simpa using h
    simp [List.lookup_cons, hb, h]

variable [LT κ] [DecidableLT κ]

/-- Setting one key changes what is found under that key only, in any list. -/
theorem lookup_put (k key : κ) (value : α) (held : List (κ × α)) :
    (put key value held).lookup k = if k = key then some value else held.lookup k := by
  induction held with
  | nil => exact lookup_cons_eq_if k key value []
  | cons first rest ih =>
    obtain ⟨other, found⟩ := first
    unfold put
    split
    · rename_i he
      subst he
      rw [lookup_cons_eq_if, lookup_cons_eq_if]
      split_ifs <;> rfl
    · rename_i hne
      split
      · rw [lookup_cons_eq_if]
      · rw [lookup_cons_eq_if, lookup_cons_eq_if, ih]
        by_cases h : k = other
        · rw [if_pos h, if_pos h, if_neg (fun hk => hne (hk.symm.trans h))]
        · rw [if_neg h, if_neg h]

theorem lookup_foldl_put (k : κ) (entries held : List (κ × α)) :
    (entries.foldl (fun held entry => put entry.1 entry.2 held) held).lookup k =
      (entries.reverse.lookup k).or (held.lookup k) := by
  induction entries generalizing held with
  | nil => simp
  | cons entry rest ih =>
    rw [List.foldl_cons, ih, lookup_put, List.reverse_cons, List.lookup_append,
      lookup_cons_eq_if, Option.or_assoc]
    congr 1
    split_ifs <;> simp

/-- Of the entries with one key the last is found. -/
theorem lookup_ofList (k : κ) (entries : List (κ × α)) :
    (ofList entries).lookup k = entries.reverse.lookup k := by
  rw [ofList, lookup_foldl_put]
  simp

omit [LT κ] [DecidableLT κ] in
/-- Where no key repeats, an entry is the one found under its key. -/
theorem lookup_of_mem {entries : List (κ × α)} (h : (entries.map Prod.fst).Nodup) {k : κ}
    {value : α} (hm : (k, value) ∈ entries) : entries.lookup k = some value := by
  induction entries with
  | nil => cases hm
  | cons first rest ih =>
    obtain ⟨hfirst, hrest⟩ := List.nodup_cons.1 h
    rw [lookup_cons_eq_if]
    rcases List.mem_cons.1 hm with rfl | hm
    · rw [if_pos rfl]
    · have hne : k ≠ first.1 := by
        intro he
        exact hfirst (List.mem_map.2 ⟨(k, value), hm, he⟩)
      rw [if_neg hne]
      exact ih hrest hm

omit [LT κ] [DecidableLT κ] in
theorem lookup_eq_none {entries : List (κ × α)} {k : κ} (h : ∀ entry ∈ entries, entry.1 ≠ k) :
    entries.lookup k = none := by
  rw [List.lookup_eq_none_iff]
  intro entry hentry
  simpa using (h entry hentry).symm

omit [LT κ] [DecidableLT κ] in
/-- An entry is not in the way of other keys. -/
theorem lookup_append_cons {k key : κ} (h : k ≠ key) (value : α) (before after : List (κ × α)) :
    (before ++ (key, value) :: after).lookup k = (before ++ after).lookup k := by
  rw [List.lookup_append, List.lookup_append, lookup_cons_eq_if, if_neg h]

omit [LT κ] [DecidableLT κ] in
/-- Where no key repeats, the order of the entries does not matter. -/
theorem lookup_of_perm {entries entries' : List (κ × α)} (h : entries.Perm entries')
    (hnodup : (entries.map Prod.fst).Nodup) (k : κ) : entries.lookup k = entries'.lookup k := by
  have hnodup' : (entries'.map Prod.fst).Nodup := (h.map Prod.fst).nodup hnodup
  by_cases hk : ∃ value, (k, value) ∈ entries
  · obtain ⟨value, hvalue⟩ := hk
    rw [lookup_of_mem hnodup hvalue, lookup_of_mem hnodup' (h.mem_iff.1 hvalue)]
  · have hnone : ∀ entry ∈ entries, entry.1 ≠ k := by
      rintro ⟨other, value⟩ hentry rfl
      exact hk ⟨value, hentry⟩
    rw [lookup_eq_none hnone, lookup_eq_none fun entry hentry => hnone entry (h.mem_iff.2 hentry)]

end Lookup

/-- Each key is less than all behind it. -/
def Increasing {κ α : Type} [LT κ] (held : List (κ × α)) : Prop :=
  held.Pairwise fun a b => a.1 < b.1

theorem Increasing.nodup_keys {κ α : Type} [LT κ] [Std.Irrefl (α := κ) (· < ·)]
    {held : List (κ × α)} (h : Increasing held) : (held.map Prod.fst).Nodup :=
  List.pairwise_map.2 (h.imp Std.ne_of_lt)

section Order

variable {κ α : Type} [DecidableEq κ] [LT κ] [DecidableLT κ]

theorem mem_of_mem_put {key : κ} {value : α} {held : List (κ × α)} {entry : κ × α}
    (h : entry ∈ put key value held) : entry = (key, value) ∨ entry ∈ held := by
  induction held with
  | nil => exact Or.inl (List.mem_singleton.1 h)
  | cons first rest ih =>
    obtain ⟨other, found⟩ := first
    unfold put at h
    split at h
    · rcases List.mem_cons.1 h with he | hm
      · exact Or.inl he
      · exact Or.inr (List.mem_cons_of_mem _ hm)
    · split at h
      · exact List.mem_cons.1 h
      · rcases List.mem_cons.1 h with he | hm
        · exact Or.inr (he ▸ List.mem_cons_self)
        · exact (ih hm).imp_right (List.mem_cons_of_mem _)

variable [LE κ] [Std.IsLinearOrder κ] [Std.LawfulOrderLT κ]

theorem Increasing.put {held : List (κ × α)} (h : Increasing held) (key : κ) (value : α) :
    Increasing (put key value held) := by
  induction held with
  | nil => exact List.pairwise_singleton _ _
  | cons first rest ih =>
    obtain ⟨other, found⟩ := first
    obtain ⟨hbehind, hrest⟩ := List.pairwise_cons.1 h
    unfold Ordered.put
    split
    · rename_i he
      subst he
      exact List.pairwise_cons.2 ⟨hbehind, hrest⟩
    · rename_i hne
      split
      · rename_i hlt
        refine List.pairwise_cons.2 ⟨?_, h⟩
        intro entry hm
        rcases List.mem_cons.1 hm with rfl | hm
        · exact hlt
        · exact Std.lt_trans hlt (hbehind entry hm)
      · rename_i hnot
        refine List.pairwise_cons.2 ⟨?_, ih hrest⟩
        intro entry hm
        rcases mem_of_mem_put hm with rfl | hm
        · exact Std.lt_of_le_of_ne (Std.not_lt.1 hnot) (Ne.symm hne)
        · exact hbehind entry hm

theorem increasing_ofList (entries : List (κ × α)) : Increasing (ofList entries) := by
  have hfold : ∀ held : List (κ × α), Increasing held →
      Increasing (entries.foldl (fun held entry => Ordered.put entry.1 entry.2 held) held) := by
    induction entries with
    | nil => exact fun _ h => h
    | cons entry rest ih => exact fun held h => ih _ (h.put entry.1 entry.2)
  exact hfold [] List.Pairwise.nil

end Order

end SeriesGateway.Ordered
