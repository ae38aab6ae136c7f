import SeriesGateway.Proofs.Failure
import SeriesGateway.Url.Basic

namespace SeriesGateway.Url

/-- The schemes over which stores are asked. -/
def IsWeb (scheme : String) : Prop :=
  scheme = "http" ∨ scheme = "https"

theorem IsWeb.isSpecial {scheme : String} (h : IsWeb scheme) : isSpecial scheme = true := by
  rcases h with rfl | rfl <;> rfl

theorem IsWeb.ne_file {scheme : String} (h : IsWeb scheme) : scheme ≠ "file" := by
  rcases h with rfl | rfl <;> decide

section

variable {p : Char → Bool} {front : List Char} (h : front.dropWhile p ≠ []) (back : List Char)

include h

theorem dropWhile_append_of_ne_nil :
    (front ++ back).dropWhile p = front.dropWhile p ++ back := by
  rw [List.dropWhile_append, if_neg (by simpa using h)]

theorem takeWhile_append_of_dropWhile_ne_nil :
    (front ++ back).takeWhile p = front.takeWhile p := by
  rw [List.takeWhile_append, if_neg]
  intro hlength
  apply h
  have hall := List.takeWhile_append_dropWhile (p := p) (l := front)
  have hsum := congrArg List.length hall
  rw [List.length_append] at hsum
  exact List.length_eq_zero_iff.1 (by omega)

omit back in
theorem getLast?_dropWhile : (front.dropWhile p).getLast? = front.getLast? := by
  conv_rhs => rw [← List.takeWhile_append_dropWhile (p := p) (l := front)]
  rw [List.getLast?_append_of_ne_nil _ h]

end

theorem dropWhile_ne_nil_of_getLast? {p : Char → Bool} {cs : List Char} {c : Char}
    (h : cs.getLast? = some c) (hc : p c = false) : cs.dropWhile p ≠ [] := by
  intro hnil
  rw [List.dropWhile_eq_nil_iff] at hnil
  rw [hnil c (List.mem_of_getLast? h)] at hc
  cases hc

/-- A text without tabs and line ends. -/
def unbroken (cs : List Char) : List Char :=
  cs.filter fun c => c != '\t' && c != '\n' && c != '\r'

theorem unbroken_append (front back : List Char) :
    unbroken (front ++ back) = unbroken front ++ unbroken back :=
  List.filter_append ..

theorem clean_of_getLast? {cs : List Char} {c : Char} (h : cs.getLast? = some c)
    (hc : 0x20 < c.toNat) : clean cs = unbroken (cs.dropWhile fun c => c.toNat ≤ 0x20) := by
  have hedge : decide (c.toNat ≤ 0x20) = false := decide_eq_false (by omega)
  have hne := dropWhile_ne_nil_of_getLast? (p := fun c => c.toNat ≤ 0x20) h hedge
  have hlast := getLast?_dropWhile hne
  rw [h, List.getLast?_eq_some_iff] at hlast
  obtain ⟨ys, hys⟩ := hlast
  rw [clean]
  simp only [hys, List.reverse_append, List.reverse_singleton, List.singleton_append]
  rw [List.dropWhile_cons_of_neg (by simp [hedge]), List.reverse_cons, List.reverse_reverse]
  rfl

/-- Whatever stands behind a slash, the text up to the slash is cleaned alike. -/
theorem clean_append {front back : List Char} {c : Char} (hfront : front.getLast? = some '/')
    (hback : back.getLast? = some c) (hc : 0x20 < c.toNat) :
    clean (front ++ back) = clean front ++ unbroken back := by
  have hlast : (front ++ back).getLast? = some c := by
    rw [List.getLast?_append, hback, Option.some_or]
  have hne := dropWhile_ne_nil_of_getLast? (p := fun c => c.toNat ≤ 0x20) hfront rfl
  rw [clean_of_getLast? hlast hc, clean_of_getLast? hfront (by decide),
    dropWhile_append_of_ne_nil hne, unbroken_append]

theorem getLast?_clean {cs : List Char} (h : cs.getLast? = some '/') :
    (clean cs).getLast? = some '/' := by
  have hlast := getLast?_dropWhile (dropWhile_ne_nil_of_getLast? (p := fun c => c.toNat ≤ 0x20) h rfl)
  rw [h, List.getLast?_eq_some_iff] at hlast
  obtain ⟨ys, hys⟩ := hlast
  rw [clean_of_getLast? h (by decide), hys, unbroken_append, List.getLast?_append]
  rfl

theorem takeScheme_eq_some_iff {cs rest : List Char} {scheme : String} :
    takeScheme cs = some (scheme, rest) ↔
      ∃ c name, cs = c :: name ++ ':' :: rest ∧ c.isAlpha = true ∧
        (∀ d ∈ c :: name, isSchemeChar d = true) ∧
        scheme = .ofList ((c :: name).map Char.toLower) := by
  constructor
  · intro h
    have hcs := List.takeWhile_append_dropWhile (p := isSchemeChar) (l := cs)
    have hall := List.all_takeWhile (p := isSchemeChar) (l := cs)
    unfold takeScheme at h
    generalize cs.takeWhile isSchemeChar = name at h hcs hall
    generalize cs.dropWhile isSchemeChar = behind at h hcs
    dsimp only at h
    split at h
    · split_ifs at h with halpha
      cases h
      exact ⟨_, _, hcs.symm, halpha, List.all_eq_true.1 hall, rfl⟩
    · cases h
  · rintro ⟨c, name, rfl, halpha, hall, rfl⟩
    have hcolon : isSchemeChar ':' = false := rfl
    unfold takeScheme
    rw [List.takeWhile_append_of_pos hall, List.dropWhile_append_of_pos hall,
      List.takeWhile_cons_of_neg (by simp [hcolon]), List.dropWhile_cons_of_neg (by simp [hcolon]),
      List.append_nil]
    simp only [halpha, if_true]

theorem takeScheme_append {cs rest : List Char} {scheme : String}
    (h : takeScheme cs = some (scheme, rest)) (back : List Char) :
    takeScheme (cs ++ back) = some (scheme, rest ++ back) := by
  obtain ⟨c, name, rfl, hscheme⟩ := takeScheme_eq_some_iff.1 h
  rw [takeScheme_eq_some_iff]
  exact ⟨c, name, List.append_assoc .., hscheme⟩

/-- A scheme ends in a colon, and what ends in a slash goes on behind it. -/
theorem getLast?_of_takeScheme {cs rest : List Char} {scheme : String}
    (h : takeScheme cs = some (scheme, rest)) (hlast : cs.getLast? = some '/') :
    rest.getLast? = some '/' := by
  obtain ⟨c, name, rfl, -⟩ := takeScheme_eq_some_iff.1 h
  rw [List.getLast?_append_of_ne_nil _ (List.cons_ne_nil _ _), List.getLast?_cons] at hlast
  cases hrest : rest.getLast? with
  | none =>
    rw [hrest] at hlast
    cases hlast
  | some d =>
    rw [hrest] at hlast
    exact hlast

theorem Authority.read_append {scheme : String} {cs rest : List Char} {a : Authority}
    (h : Authority.read scheme cs = .ok (a, rest)) (hlast : cs.getLast? = some '/')
    (back : List Char) :
    Authority.read scheme (cs ++ back) = .ok (a, rest ++ back) ∧ rest.getLast? = some '/' := by
  have hend : (!isEnd (isSpecial scheme) '/') = false := rfl
  have hne : cs.dropWhile (fun c => !isEnd (isSpecial scheme) c) ≠ [] :=
    dropWhile_ne_nil_of_getLast? hlast hend
  have hbehind := (getLast?_dropWhile hne).trans hlast
  unfold Authority.read at h ⊢
  simp only [dropWhile_append_of_ne_nil hne, takeWhile_append_of_dropWhile_ne_nil hne] at h ⊢
  simp only [hne, ne_eq, not_false_eq_true, and_true, List.append_eq_nil_iff, false_and] at h ⊢
  generalize cs.takeWhile (fun c => !isEnd (isSpecial scheme) c) = authority at h ⊢
  generalize cs.dropWhile (fun c => !isEnd (isSpecial scheme) c) = behind at h hne hbehind ⊢
  split_ifs at h ⊢
  · cases h
  · obtain ⟨⟨host, port, left⟩, hhost, hread⟩ := bind_eq_ok_iff.1 h
    simp only [hhost, bind, Except.bind] at hread ⊢
    split_ifs at hread ⊢
    cases hread
    rw [List.append_assoc, List.getLast?_append_of_ne_nil _ hne]
    exact ⟨rfl, hbehind⟩

theorem readHostedFile_scheme {cs : List Char} {u : Url} (h : readHostedFile cs = .ok u) :
    u.scheme = "file" := by
  unfold readHostedFile at h
  dsimp only at h
  split at h
  · cases h
    rfl
  · obtain ⟨host, -, h⟩ := bind_eq_ok_iff.1 h
    split at h <;> cases h <;> rfl

theorem readFile_scheme {cs : List Char} {u : Url} (h : readFile cs = .ok u) :
    u.scheme = "file" := by
  unfold readFile at h
  dsimp only at h
  split_ifs at h
  · exact readHostedFile_scheme h
  · cases h
    rfl

theorem readHierarchy_eq_ok_iff {scheme : String} {cs : List Char} {u : Url} :
    readHierarchy scheme cs = .ok u ↔
      ∃ a rest, Authority.read scheme cs = .ok (a, rest) ∧
        u = withRest scheme (some a) (.behindAuthority (isSpecial scheme) (splitPath rest).1)
          (splitPath rest).2 := by
  constructor
  · intro h
    obtain ⟨⟨a, rest⟩, hread, h⟩ := bind_eq_ok_iff.1 h
    cases h
    exact ⟨a, rest, hread, rfl⟩
  · rintro ⟨a, rest, hread, rfl⟩
    rw [readHierarchy, hread]
    rfl

theorem readScheme_scheme {scheme : String} {cs : List Char} {u : Url}
    (h : readScheme scheme cs = .ok u) : u.scheme = scheme := by
  have hhierarchy : ∀ {cs : List Char}, readHierarchy scheme cs = .ok u → u.scheme = scheme := by
    intro cs hread
    obtain ⟨a, rest, -, rfl⟩ := readHierarchy_eq_ok_iff.1 hread
    rfl
  unfold readScheme at h
  split_ifs at h with hfile hspecial
  · exact (readFile_scheme h).trans hfile.symm
  · exact hhierarchy h
  · dsimp only at h
    split at h
    · exact hhierarchy h
    · cases h
      rfl
    · cases h
      rfl

theorem readScheme_of_isWeb {scheme : String} (h : IsWeb scheme) (cs : List Char) :
    readScheme scheme cs = readHierarchy scheme (cs.dropWhile (Path.isSlash true)) := by
  rw [readScheme, if_neg h.ne_file, if_pos h.isSpecial]

/-- The parts of a web URL: the party that is asked, and the text from the path on. -/
structure Splits (cs : List Char) (scheme : String) (a : Authority) (rest : List Char) : Prop where
  isWeb : IsWeb scheme
  reads : ∃ behind, takeScheme (clean cs) = some (scheme, behind) ∧
    Authority.read scheme (behind.dropWhile (Path.isSlash true)) = .ok (a, rest)

/-- The web URL of its parts. -/
def ofParts (scheme : String) (a : Authority) (rest : List Char) : Url :=
  withRest scheme (some a) (.behindAuthority true (splitPath rest).1) (splitPath rest).2

theorem Splits.read_eq {cs rest : List Char} {scheme : String} {a : Authority}
    (h : Splits cs scheme a rest) : read cs = .ok (ofParts scheme a rest) := by
  obtain ⟨behind, hscheme, hread⟩ := h.reads
  rw [read, hscheme]
  dsimp only
  rw [readScheme_of_isWeb h.isWeb, readHierarchy_eq_ok_iff]
  exact ⟨a, rest, hread, by rw [h.isWeb.isSpecial, ofParts]⟩

theorem exists_splits_of_read {cs : List Char} {u : Url} (h : read cs = .ok u)
    (hweb : IsWeb u.scheme) :
    ∃ a rest, Splits cs u.scheme a rest ∧ u = ofParts u.scheme a rest := by
  unfold read at h
  split at h
  · rename_i scheme behind hscheme
    obtain rfl := readScheme_scheme h
    rw [readScheme_of_isWeb hweb, readHierarchy_eq_ok_iff, hweb.isSpecial] at h
    obtain ⟨a, rest, hread, hu⟩ := h
    exact ⟨a, rest, ⟨hweb, behind, hscheme, hread⟩, hu⟩
  · cases h

theorem Authority.read_nil {scheme : String} (h : IsWeb scheme) :
    Authority.read scheme [] = .error .emptyHost := by
  rcases h with rfl | rfl <;> rfl

/-- Nothing behind its last slash changes which party a URL asks. -/
theorem Splits.append {front back rest : List Char} {scheme : String} {a : Authority} {c : Char}
    (h : Splits front scheme a rest) (hfront : front.getLast? = some '/')
    (hback : back.getLast? = some c) (hc : 0x20 < c.toNat) :
    Splits (front ++ back) scheme a (rest ++ unbroken back) ∧ rest.getLast? = some '/' := by
  obtain ⟨behind, hscheme, hread⟩ := h.reads
  have hlast := getLast?_of_takeScheme hscheme (getLast?_clean hfront)
  have hne : behind.dropWhile (Path.isSlash true) ≠ [] := by
    intro hnil
    rw [hnil, Authority.read_nil h.isWeb] at hread
    cases hread
  obtain ⟨hlonger, hrest⟩ :=
    Authority.read_append hread ((getLast?_dropWhile hne).trans hlast) (unbroken back)
  refine ⟨⟨h.isWeb, behind ++ unbroken back, ?_, ?_⟩, hrest⟩
  · rw [clean_append hfront hback hc, takeScheme_append hscheme]
  · rw [dropWhile_append_of_ne_nil hne, hlonger]

theorem exists_rooted_of_read {cs : List Char} {u : Url} (h : read cs = .ok u)
    (hweb : IsWeb u.scheme) : ∃ segments, u.path = .rooted segments := by
  obtain ⟨a, rest, -, hu⟩ := exists_splits_of_read h hweb
  have hpath : u.path = .behindAuthority true (splitPath rest).1 := congrArg Url.path hu
  rw [hpath]
  cases (splitPath rest).1 with
  | nil => exact ⟨_, rfl⟩
  | cons c path => exact ⟨_, rfl⟩

/-- The path of a web URL gives way as a whole. -/
theorem path_withPath {u : Url} {segments : List (List Char)} (hweb : IsWeb u.scheme)
    (hrooted : u.path = .rooted segments) (cs : List Char) :
    (u.withPath ('/' :: cs)).path = .rooted (Path.segmentsOf true (unbroken cs)) := by
  simp only [withPath, hrooted, if_neg hweb.ne_file, hweb.isSpecial]
  rfl

theorem splitPath_eq (cs : List Char) :
    splitPath cs = (cs.takeWhile (fun c => c != '?' && c != '#'),
      cs.dropWhile fun c => c != '?' && c != '#') :=
  List.span_eq_takeWhile_dropWhile ..

theorem splitPath_of_uncut {cs : List Char} (h : ∀ c ∈ cs, c ≠ '?' ∧ c ≠ '#') :
    splitPath cs = (cs, []) := by
  have hall : ∀ c ∈ cs, (c != '?' && c != '#') = true := by
    intro c hc
    simp [h c hc]
  rw [splitPath_eq, List.takeWhile_eq_self_iff.2 hall, List.dropWhile_eq_nil_iff.2 hall]

theorem uncut_of_splitPath {cs : List Char} (h : (splitPath cs).2 = []) :
    ∀ c ∈ cs, c ≠ '?' ∧ c ≠ '#' := by
  rw [splitPath_eq, List.dropWhile_eq_nil_iff] at h
  intro c hc
  simpa using h c hc

/-- A path that is cut stays as it is, whatever stands behind. -/
theorem splitPath_append {front : List Char} (h : (splitPath front).2 ≠ []) (back : List Char) :
    (splitPath (front ++ back)).1 = (splitPath front).1 := by
  rw [splitPath_eq] at h
  rw [splitPath_eq, splitPath_eq]
  exact takeWhile_append_of_dropWhile_ne_nil h back

theorem mark_of_splitPath {cs behind : List Char} {c : Char}
    (h : (splitPath cs).2 = c :: behind) : c = '?' ∨ c = '#' := by
  have hcut : cs.dropWhile (fun c => c != '?' && c != '#') = c :: behind := by
    rw [← h, splitPath_eq]
  have hhead := List.head?_dropWhile_not (fun c => c != '?' && c != '#') cs
  rw [hcut, List.head?_cons] at hhead
  by_cases hc : c = '?'
  · exact Or.inl hc
  · exact Or.inr (by simpa [hc] using hhead)

theorem splitPath_ofParts_iff (scheme : String) (a : Authority) (rest : List Char) :
    (splitPath rest).2 = [] ↔
      (ofParts scheme a rest).query = none ∧ (ofParts scheme a rest).fragment = none := by
  simp only [ofParts, withRest]
  cases hcut : (splitPath rest).2 with
  | nil => simp [readQuery, readFragment]
  | cons c behind =>
    rcases mark_of_splitPath hcut with rfl | rfl <;> simp [readQuery, readFragment]

end SeriesGateway.Url
