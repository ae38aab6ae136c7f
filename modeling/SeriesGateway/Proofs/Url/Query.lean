import SeriesGateway.Proofs.Url.Web

namespace SeriesGateway.Url

/-- What stands in front of the marks does not change what is cut off at them. -/
theorem splitPath_append_of_uncut {front : List Char} (h : ∀ c ∈ front, c ≠ '?' ∧ c ≠ '#')
    (rest : List Char) : (splitPath (front ++ rest)).2 = (splitPath rest).2 := by
  rw [splitPath_eq, splitPath_eq, List.dropWhile_append_of_pos]
  intro c hc
  simp [h c hc]

theorem splitPath_dropWhile {p : Char → Bool} (h : ∀ c, p c = true → c ≠ '?' ∧ c ≠ '#')
    (cs : List Char) : (splitPath (cs.dropWhile p)).2 = (splitPath cs).2 := by
  conv_rhs => rw [← List.takeWhile_append_dropWhile (p := p) (l := cs)]
  rw [splitPath_append_of_uncut]
  intro c hc
  exact h c (List.mem_takeWhile_imp hc)

theorem uncut_of_isSlash {special : Bool} {c : Char} (h : Path.isSlash special c = true) :
    c ≠ '?' ∧ c ≠ '#' := by
  constructor
  · rintro rfl
    cases special <;> cases h
  · rintro rfl
    cases special <;> cases h

namespace Authority

theorem uncut_of_not_isEnd {special : Bool} {c : Char} (h : (!isEnd special c) = true) :
    c ≠ '?' ∧ c ≠ '#' := by
  simp only [isEnd, Bool.not_eq_true', Bool.or_eq_false_iff, beq_eq_false_iff_ne] at h
  exact ⟨h.1.2, h.2⟩

theorem splitUser_subset (cs : List Char) : (splitUser cs).2 ⊆ cs := by
  intro c hc
  rw [splitUser] at hc
  exact List.mem_reverse.1 ((List.takeWhile_sublist _).subset (List.mem_reverse.1 hc))

theorem splitPort_append (bracketed : Bool) (cs : List Char) :
    (splitPort bracketed cs).1 ++ (splitPort bracketed cs).2 = cs := by
  induction cs generalizing bracketed with
  | nil => rfl
  | cons c rest ih =>
    rw [splitPort]
    split_ifs
    · rfl
    · exact congrArg (List.cons c) (ih _)

/-- A port is ended by text that stands behind the host. -/
theorem readHost_subset {scheme : String} {cs left : List Char} {host : Host} {port : Option Nat}
    (h : readHost scheme cs = .ok (host, port, left)) : left ⊆ cs := by
  have hleft : ((splitPort false cs).2.drop 1).dropWhile (· != '\\') ⊆ cs := by
    intro c hc
    rw [← splitPort_append false cs, List.mem_append]
    exact Or.inr (List.mem_of_mem_drop (List.dropWhile_subset _ hc))
  unfold readHost at h
  dsimp only at h
  split at h
  · cases h
  · split at h
    all_goals
      obtain ⟨host, -, h⟩ := bind_eq_ok_iff.1 h
      obtain ⟨port, -, h⟩ := bind_eq_ok_iff.1 h
      cases h
      exact hleft

/-- An authority holds none of the marks. -/
theorem splitPath_of_read {scheme : String} {cs rest : List Char} {a : Authority}
    (h : Authority.read scheme cs = .ok (a, rest)) : (splitPath rest).2 = (splitPath cs).2 := by
  have huncut : ∀ c ∈ cs.takeWhile (fun c => !isEnd (isSpecial scheme) c), c ≠ '?' ∧ c ≠ '#' :=
    fun c hc => uncut_of_not_isEnd
      (List.mem_takeWhile_imp (p := fun c => !isEnd (isSpecial scheme) c) hc)
  rw [← splitPath_dropWhile (p := fun c => !isEnd (isSpecial scheme) c)
    (fun c hc => uncut_of_not_isEnd hc) cs]
  unfold Authority.read at h
  dsimp only at h
  split_ifs at h
  · cases h
  · obtain ⟨⟨host, port, left⟩, hhost, h⟩ := bind_eq_ok_iff.1 h
    dsimp only at h
    split_ifs at h
    · cases h
    · cases h
      apply splitPath_append_of_uncut
      intro c hc
      exact huncut c (splitUser_subset _ (readHost_subset hhost hc))

end Authority

/-- The query of a URL is the one that a text has behind its path. -/
def QueryIsOf (u : Url) (cs : List Char) : Prop :=
  u.query = readQuery (isSpecial u.scheme) (splitPath cs).2

theorem QueryIsOf.congr {u : Url} {cs ds : List Char} (h : u.QueryIsOf cs)
    (heq : (splitPath cs).2 = (splitPath ds).2) : u.QueryIsOf ds := by
  rw [QueryIsOf, ← heq]
  exact h

theorem queryIsOf_withRest (scheme : String) (authority : Option Authority) (path : Path)
    (cs : List Char) : (withRest scheme authority path (splitPath cs).2).QueryIsOf cs :=
  rfl

theorem queryIsOf_of_readHierarchy {scheme : String} {cs : List Char} {u : Url}
    (h : readHierarchy scheme cs = .ok u) : u.QueryIsOf cs := by
  obtain ⟨a, rest, hread, rfl⟩ := readHierarchy_eq_ok_iff.1 h
  exact (queryIsOf_withRest _ _ _ rest).congr (Authority.splitPath_of_read hread)

theorem queryIsOf_readLocalFile (cs : List Char) : (readLocalFile cs).QueryIsOf cs :=
  rfl

theorem queryIsOf_of_readHostedFile {cs : List Char} {u : Url} (h : readHostedFile cs = .ok u) :
    u.QueryIsOf cs := by
  have hrest : (splitPath (cs.dropWhile fun c => !Authority.isEnd true c)).2 = (splitPath cs).2 :=
    splitPath_dropWhile (fun c hc => Authority.uncut_of_not_isEnd hc) cs
  unfold readHostedFile at h
  dsimp only at h
  split at h
  · cases h
    exact queryIsOf_readLocalFile cs
  · obtain ⟨host, -, h⟩ := bind_eq_ok_iff.1 h
    split at h
    · cases h
      exact (queryIsOf_readLocalFile _).congr hrest
    · cases h
      exact (queryIsOf_withRest _ _ _ _).congr hrest

/-- Up to two slashes are dropped. -/
theorem queryIsOf_of_readFile {cs : List Char} {u : Url} (h : readFile cs = .ok u) :
    u.QueryIsOf cs := by
  obtain ⟨rest, hrest⟩ : (cs.take 2).takeWhile (Path.isSlash true) <+: cs := by
    apply List.IsPrefix.trans
    · exact List.takeWhile_prefix _
    · exact List.take_prefix 2 cs
  have huncut : ∀ c ∈ (cs.take 2).takeWhile (Path.isSlash true), c ≠ '?' ∧ c ≠ '#' :=
    fun c hc => uncut_of_isSlash (List.mem_takeWhile_imp hc)
  unfold readFile at h
  dsimp only at h
  generalize (cs.take 2).takeWhile (Path.isSlash true) = slashes at h hrest huncut
  subst hrest
  split at h
  · rename_i htwo
    rw [← htwo, List.drop_left] at h
    exact (queryIsOf_of_readHostedFile h).congr (splitPath_append_of_uncut huncut rest).symm
  · rw [List.drop_left] at h
    cases h
    exact (queryIsOf_readLocalFile rest).congr (splitPath_append_of_uncut huncut rest).symm

theorem queryIsOf_of_readScheme {scheme : String} {cs : List Char} {u : Url}
    (h : readScheme scheme cs = .ok u) : u.QueryIsOf cs := by
  unfold readScheme at h
  split_ifs at h with hfile hspecial
  · exact queryIsOf_of_readFile h
  · exact (queryIsOf_of_readHierarchy h).congr (splitPath_dropWhile (fun c => uncut_of_isSlash) cs)
  · dsimp only at h
    split at h
    · rename_i rest
      have hslashes : ∀ c ∈ ['/', '/'], c ≠ '?' ∧ c ≠ '#' := by simp
      exact (queryIsOf_of_readHierarchy h).congr (splitPath_append_of_uncut hslashes rest).symm
    · cases h
      exact queryIsOf_withRest _ _ _ _
    · cases h
      exact queryIsOf_withRest _ _ _ _

/-- A scheme and its colon hold none of the marks. -/
theorem splitPath_of_takeScheme {cs rest : List Char} {scheme : String}
    (h : takeScheme cs = some (scheme, rest)) : (splitPath rest).2 = (splitPath cs).2 := by
  obtain ⟨c, name, rfl, -, hname, -⟩ := takeScheme_eq_some_iff.1 h
  have hfront : ∀ d ∈ c :: name ++ [':'], d ≠ '?' ∧ d ≠ '#' := by
    intro d hd
    rcases List.mem_append.1 hd with hd | hd
    · constructor
      · rintro rfl
        cases hname '?' hd
      · rintro rfl
        cases hname '#' hd
    · rw [List.mem_singleton.1 hd]
      decide
  rw [← splitPath_append_of_uncut hfront rest, List.append_assoc, List.singleton_append]

/-- The query of a URL starts at the first mark of its text. -/
theorem queryIsOf_of_read {cs : List Char} {u : Url} (h : read cs = .ok u) :
    u.QueryIsOf (clean cs) := by
  unfold read at h
  split at h
  · rename_i scheme rest hscheme
    exact (queryIsOf_of_readScheme h).congr (splitPath_of_takeScheme hscheme)
  · cases h

theorem clean_subset (cs : List Char) : clean cs ⊆ cs := by
  intro c hc
  have htrimmed := List.mem_reverse.1 (List.mem_of_mem_filter hc)
  exact List.dropWhile_subset _ (List.mem_reverse.1 (List.dropWhile_subset _ htrimmed))

/-- A text without the marks has no query. -/
theorem query_eq_none_of_uncut {cs : List Char} {u : Url} (h : read cs = .ok u)
    (huncut : ∀ c ∈ cs, c ≠ '?' ∧ c ≠ '#') : u.query = none := by
  rw [queryIsOf_of_read h, splitPath_of_uncut fun c hc => huncut c (clean_subset cs hc)]
  rfl

end SeriesGateway.Url
