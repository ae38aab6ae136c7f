import SeriesGateway.Proofs.Text.Percent
import SeriesGateway.Text.Form

namespace SeriesGateway.Form

/-- A reader takes a plus for a blank. -/
def readPlus (c : Char) : Char :=
  if c == '+' then ' ' else c

theorem decodeText_eq (cs : List Char) :
    decodeText cs = .ofList (Utf8.decodeLossy (Percent.decode (cs.map readPlus))) :=
  rfl

theorem keeps_of_isAlphanum {c : Char} (h : c.isAlphanum = true) : keeps c = true := by
  simp [keeps, h]

/-- An escape is made of characters that stand for themselves, and its mark. -/
theorem eq_percent_or_keeps_of_mem {c d : Char}
    (h : d ∈ Percent.encodeChar (fun e => !keeps e) c) : d = '%' ∨ keeps d = true := by
  unfold Percent.encodeChar at h
  split at h
  · rename_i hkept
    obtain rfl := List.mem_singleton.1 h
    simp only [Bool.not_not, Bool.and_eq_true] at hkept
    exact Or.inr hkept.2
  · obtain ⟨b, -, hb⟩ := List.mem_flatMap.1 h
    rcases Percent.eq_percent_or_isAlphanum_of_mem_encodeByte hb with rfl | halnum
    · exact Or.inl rfl
    · exact Or.inr (keeps_of_isAlphanum halnum)

theorem map_readPlus_encodeChar (c : Char) :
    (encodeChar c).map readPlus =
      if c = ' ' then [' '] else Percent.encodeChar (fun d => !keeps d) c := by
  unfold encodeChar
  by_cases hc : c = ' '
  · subst hc
    rfl
  · rw [if_neg (by simpa using hc), if_neg hc]
    refine (List.map_congr_left ?_).trans (List.map_id _)
    intro d hd
    have hne : d ≠ '+' := by
      rintro rfl
      rcases eq_percent_or_keeps_of_mem hd with h | h <;> cases h
    simp [readPlus, hne]

theorem decode_map_readPlus_encodeText (cs : List Char) :
    Percent.decode ((encodeText cs).map readPlus) = Utf8.encode cs := by
  induction cs with
  | nil => rfl
  | cons c cs ih =>
    rw [encodeText, List.flatMap_cons, List.map_append, map_readPlus_encodeChar,
      Utf8.encode_cons, ← ih]
    split
    · rename_i hc
      subst hc
      exact Percent.decode_cons_of_ne (by decide) _
    · exact Percent.decode_encodeChar rfl c _

theorem decodeText_encodeText (cs : List Char) : decodeText (encodeText cs) = .ofList cs := by
  rw [decodeText_eq, decode_map_readPlus_encodeText, Utf8.decodeLossy_encode]

/-- Neither mark between pairs and their parts occurs in a text that is written for one. -/
theorem not_mem_encodeText {mark : Char} (hmark : mark = '&' ∨ mark = '=') (cs : List Char) :
    mark ∉ encodeText cs := by
  intro h
  obtain ⟨c, -, hc⟩ := List.mem_flatMap.1 h
  unfold encodeChar at hc
  split at hc
  · obtain rfl := List.mem_singleton.1 hc
    rcases hmark with h | h <;> cases h
  · rcases hmark with rfl | rfl
    · rcases eq_percent_or_keeps_of_mem hc with h | h <;> cases h
    · rcases eq_percent_or_keeps_of_mem hc with h | h <;> cases h

theorem decodePair_encodePair (pair : String × String) : decodePair (encodePair pair) = pair := by
  have hname : ∀ c ∈ encodeText pair.1.toList, (c != '=') = true := by
    intro c hc
    rw [bne_iff_ne]
    rintro rfl
    exact not_mem_encodeText (Or.inr rfl) _ hc
  have htake : (encodePair pair).takeWhile (· != '=') = encodeText pair.1.toList := by
    rw [encodePair, List.takeWhile_append_of_pos hname, List.takeWhile_cons_of_neg (by decide),
      List.append_nil]
  have hdrop : (encodePair pair).dropWhile (· != '=') = '=' :: encodeText pair.2.toList := by
    rw [encodePair, List.dropWhile_append_of_pos hname, List.dropWhile_cons_of_neg (by decide)]
  rw [decodePair, htake, hdrop, List.drop_succ_cons, List.drop_zero, decodeText_encodeText,
    decodeText_encodeText, String.ofList_toList, String.ofList_toList]

theorem encodePair_ne_nil (pair : String × String) : encodePair pair ≠ [] :=
  List.append_ne_nil_of_right_ne_nil _ (List.cons_ne_nil _ _)

theorem not_mem_encodePair (pair : String × String) : '&' ∉ encodePair pair := by
  intro h
  rcases List.mem_append.1 h with hname | hvalue
  · exact not_mem_encodeText (Or.inl rfl) _ hname
  · rcases List.mem_cons.1 hvalue with heq | hvalue
    · cases heq
    · exact not_mem_encodeText (Or.inl rfl) _ hvalue

theorem decode_encode (pairs : List (String × String)) : decode (encode pairs) = pairs := by
  cases pairs with
  | nil => rfl
  | cons pair rest =>
    have hsplit : (encode (pair :: rest)).splitOn '&' = (pair :: rest).map encodePair := by
      refine List.splitOn_intercalate '&' ?_ (by simp)
      intro text htext
      obtain ⟨p, -, rfl⟩ := List.mem_map.1 htext
      exact not_mem_encodePair p
    have hfull : ((pair :: rest).map encodePair).filter (!·.isEmpty) =
        (pair :: rest).map encodePair := by
      refine List.filter_eq_self.2 ?_
      intro text htext
      obtain ⟨p, -, rfl⟩ := List.mem_map.1 htext
      simpa using encodePair_ne_nil p
    rw [decode, hsplit, hfull, List.map_map]
    exact (List.map_congr_left fun p _ => decodePair_encodePair p).trans (List.map_id _)

theorem decode_append_mark (front behind : List Char) :
    decode (front ++ '&' :: behind) = decode front ++ decode behind := by
  rw [decode, List.splitOn_append_cons_self, List.filter_append, List.map_append]
  rfl

/-- Whatever a text reads as, pairs that are added behind it come last. -/
theorem decode_append (present : List Char) (pairs : List (String × String)) :
    decode (append present pairs) = decode present ++ pairs := by
  unfold append
  split
  · rename_i hpairs
    rw [List.isEmpty_iff.1 hpairs, List.append_nil]
  · split
    · rename_i hpresent
      rw [List.isEmpty_iff.1 hpresent, decode_encode]
      rfl
    · rw [decode_append_mark, decode_encode]

end SeriesGateway.Form
