import SeriesGateway.Json.Token
import SeriesGateway.Proofs.Text.Blank

namespace SeriesGateway.Json

theorem tokens_nil : tokens [] = some [] := by
  rw [tokens]

theorem tokens_of_isSpace {c : Char} {rest : List Char} (h : isSpace c = true) :
    tokens (c :: rest) = tokens rest := by
  rw [tokens, if_pos h]

theorem tokens_of_splitToken {c : Char} {rest behind : List Char} {token : Token}
    (hspace : isSpace c = false) (h : splitToken (c :: rest) = some (token, behind)) :
    tokens (c :: rest) = (tokens behind).map (token :: ·) := by
  rw [tokens]
  simp only [hspace, Bool.false_eq_true, if_false]
  split
  · rename_i hnone
    rw [h] at hnone
    cases hnone
  · rename_i hsome
    rw [h] at hsome
    cases hsome
    rfl

theorem tokens_of_stray {c : Char} {rest : List Char} (hspace : isSpace c = false)
    (h : splitToken (c :: rest) = none) : tokens (c :: rest) = none := by
  rw [tokens]
  simp only [hspace, Bool.false_eq_true, if_false]
  split
  · rfl
  · rename_i hsome
    rw [h] at hsome
    cases hsome

theorem tokens_append_of_space {ws : List Char} (h : ∀ c ∈ ws, isSpace c = true)
    (cs : List Char) : tokens (ws ++ cs) = tokens cs := by
  induction ws with
  | nil => rfl
  | cons c ws ih =>
    rw [List.cons_append, tokens_of_isSpace (h c List.mem_cons_self)]
    exact ih fun d hd => h d (List.mem_cons_of_mem _ hd)

/-- White space of any kind starts no token. -/
theorem splitToken_of_isBlank {c : Char} (h : Text.isBlank c = true) (rest : List Char) :
    splitToken (c :: rest) = none := by
  have hne : ∀ d : Char, Text.isBlank d = false → c ≠ d := by
    rintro d hd rfl
    rw [h] at hd
    cases hd
  have hdigit : c.isDigit = false := by
    cases hc : c.isDigit with
    | false => rfl
    | true =>
      rw [Text.isBlank_eq_false_of_isDigit hc] at h
      cases h
  have hnumber : splitNumber (c :: rest) = none := by
    unfold splitNumber
    split
    · rename_i heq
      exact absurd (List.cons.inj heq).1 (hne '-' (by decide))
    · unfold splitUnsigned splitWhole
      split
      · rename_i heq
        exact absurd (List.cons.inj heq).1 (hne '0' (by decide))
      · simp [splitDigits, hdigit]
  unfold splitToken
  split
  case h_11 => rw [hnumber, Option.map_none]
  all_goals
    rename_i heq
    exact absurd (List.cons.inj heq).1 (hne _ (by decide))

/-- A text of white space holds no token, and may be no text of tokens at all. -/
theorem tokens_of_all_isBlank {cs : List Char} (h : ∀ c ∈ cs, Text.isBlank c = true) :
    tokens cs = none ∨ tokens cs = some [] := by
  induction cs with
  | nil => exact Or.inr tokens_nil
  | cons c rest ih =>
    cases hspace : isSpace c with
    | true =>
      rw [tokens_of_isSpace hspace]
      exact ih fun d hd => h d (List.mem_cons_of_mem _ hd)
    | false =>
      exact Or.inl (tokens_of_stray hspace (splitToken_of_isBlank (h c List.mem_cons_self) rest))

/-- The numeral of an integer. -/
def NumberText.ofInt (n : Int) : NumberText :=
  ⟨n < 0, Numeral.text n.natAbs, none, none⟩

/-- Characters that stand for themselves in a string. -/
def IsPlain (source : List Char) : Prop :=
  ∀ c ∈ source, c ≠ '"' ∧ c ≠ '\\' ∧ 0x20 ≤ c.toNat

/-- The characters that may go on a numeral. -/
def isNumberPart (c : Char) : Bool :=
  c.isDigit || c == '.' || c == 'e' || c == 'E'

/-- Whether a token stands between values. -/
def Token.isMark : Token → Bool
  | .braceOpen | .braceClose | .bracketOpen | .bracketClose | .comma | .colon => true
  | .null | .boolean _ | .number _ | .string _ => false

/-- The text of a token: an integer in plain digits, a string without escapes. -/
inductive Spelled : Token → List Char → Prop
  | braceOpen : Spelled .braceOpen ['\x7b']
  | braceClose : Spelled .braceClose ['\x7d']
  | bracketOpen : Spelled .bracketOpen ['[']
  | bracketClose : Spelled .bracketClose [']']
  | comma : Spelled .comma [',']
  | colon : Spelled .colon [':']
  | null : Spelled .null ['n', 'u', 'l', 'l']
  | yes : Spelled (.boolean true) ['t', 'r', 'u', 'e']
  | no : Spelled (.boolean false) ['f', 'a', 'l', 's', 'e']
  | integer (n : Int) : Spelled (.number (.ofInt n)) (Numeral.intText n)
  | string {source : List Char} (plain : IsPlain source) :
    Spelled (.string source) ('"' :: source ++ ['"'])

/-- A text that spells tokens in order, with space before, between and behind them. -/
inductive Layout : List Token → List Char → Prop
  | done {ws : List Char} (space : ∀ c ∈ ws, isSpace c = true) : Layout [] ws
  | next {ws text rest : List Char} {token : Token} {later : List Token}
    (space : ∀ c ∈ ws, isSpace c = true) (spelled : Spelled token text)
    (tail : Layout later rest) : Layout (token :: later) (ws ++ text ++ rest)

/-- Of two neighbours one is a mark. -/
def Separated (ts : List Token) : Prop :=
  ts.IsChain fun a b => a.isMark = true ∨ b.isMark = true

/-- A text behind which a numeral may stop. -/
def StopsNumber (rest : List Char) : Prop :=
  ∀ c ∈ rest.head?, isNumberPart c = false

theorem takeWhile_digits {ds rest : List Char} (hds : ∀ c ∈ ds, c.isDigit = true)
    (hrest : StopsNumber rest) :
    (ds ++ rest).takeWhile Char.isDigit = ds ∧ (ds ++ rest).dropWhile Char.isDigit = rest := by
  rw [List.takeWhile_append_of_pos hds, List.dropWhile_append_of_pos hds]
  cases rest with
  | nil => simp
  | cons c rest =>
    have hc := hrest c rfl
    simp only [isNumberPart, Bool.or_eq_false_iff] at hc
    simp [hc.1.1.1]

theorem splitUnsigned_text (negative : Bool) (n : Nat) {rest : List Char}
    (hrest : StopsNumber rest) :
    splitUnsigned negative (Numeral.text n ++ rest) =
      some (⟨negative, Numeral.text n, none, none⟩, rest) := by
  have hwhole : splitWhole (Numeral.text n ++ rest) = some (Numeral.text n, rest) := by
    obtain ⟨c, cs, hcs, -⟩ := Numeral.exists_text_eq_cons n
    obtain ⟨htake, hdrop⟩ :=
      takeWhile_digits (fun d hd => Numeral.isDigit_of_mem_text (n := n) hd) hrest
    by_cases hzero : c = '0'
    · subst hzero
      obtain ⟨-, rfl⟩ := Numeral.text_eq_of_head_zero hcs
      rw [hcs]
      rfl
    · have hsplit : splitDigits (Numeral.text n ++ rest) = some (Numeral.text n, rest) := by
        rw [splitDigits, htake, hdrop]
        simp [Numeral.text_ne_nil n]
      unfold splitWhole
      split
      · rename_i heq
        rw [hcs] at heq
        exact absurd (List.cons.inj heq).1 hzero
      · exact hsplit
  have hfraction : splitFraction rest = some (none, rest) := by
    unfold splitFraction
    split
    · exact absurd (hrest '.' rfl) (by decide)
    · rfl
  have hexponent : splitExponent rest = some (none, rest) := by
    unfold splitExponent
    split
    · rfl
    · rename_i c behind
      have hc := hrest c rfl
      simp only [isNumberPart, Bool.or_eq_false_iff] at hc
      simp [hc.1.2, hc.2]
  simp [splitUnsigned, hwhole, hfraction, hexponent]

theorem splitNumber_intText (n : Int) {rest : List Char} (hrest : StopsNumber rest) :
    splitNumber (Numeral.intText n ++ rest) = some (.ofInt n, rest) := by
  cases n with
  | ofNat n =>
    obtain ⟨c, cs, hcs, hc⟩ := Numeral.exists_text_eq_cons n
    have hsplit := splitUnsigned_text false n hrest
    unfold splitNumber
    split
    · rename_i heq
      rw [Numeral.intText, hcs] at heq
      rw [(List.cons.inj heq).1] at hc
      cases hc
    · exact hsplit
  | negSucc n =>
    have hnegative : decide (Int.negSucc n < 0) = true := decide_eq_true (Int.negSucc_lt_zero n)
    rw [NumberText.ofInt, hnegative]
    exact splitUnsigned_text true (n + 1) hrest

theorem splitString_of_isPlain {source : List Char} (h : IsPlain source) (rest : List Char) :
    splitString (source ++ '"' :: rest) = some (source, rest) := by
  induction source with
  | nil => rfl
  | cons c source ih =>
    obtain ⟨hquote, hslash, hcontrol⟩ := h c List.mem_cons_self
    have htail := ih fun d hd => h d (List.mem_cons_of_mem _ hd)
    rw [List.cons_append, splitString.eq_def]
    split <;> simp_all

/-- No token starts with space. -/
theorem Spelled.exists_cons {token : Token} {text : List Char} (h : Spelled token text) :
    ∃ c cs, text = c :: cs ∧ isSpace c = false := by
  cases h with
  | integer n =>
    obtain ⟨c, cs, hcs⟩ := List.exists_cons_of_ne_nil (Numeral.intText_ne_nil n)
    refine ⟨c, cs, hcs, ?_⟩
    have hc := Numeral.isDigit_or_eq_minus_of_mem_intText (n := n) (c := c) (by simp [hcs])
    cases hspace : isSpace c with
    | false => rfl
    | true =>
      simp only [isSpace, Bool.or_eq_true, beq_iff_eq] at hspace
      rcases hspace with ((rfl | rfl) | rfl) | rfl <;> exact absurd hc (by decide)
  | _ => exact ⟨_, _, rfl, by decide⟩

/-- A token is split off whole, if what follows does not go on a numeral. -/
theorem splitToken_of_spelled {token : Token} {text rest : List Char} (h : Spelled token text)
    (hrest : token.isMark = false → StopsNumber rest) :
    splitToken (text ++ rest) = some (token, rest) := by
  cases h with
  | integer n =>
    have hsplit := splitNumber_intText n (hrest rfl)
    obtain ⟨c, cs, hcs⟩ := List.exists_cons_of_ne_nil (Numeral.intText_ne_nil n)
    have hc := Numeral.isDigit_or_eq_minus_of_mem_intText (n := n) (c := c) (by simp [hcs])
    rw [hcs] at hsplit ⊢
    unfold splitToken
    split
    case h_11 => rw [hsplit]; rfl
    all_goals
      rename_i heq
      obtain ⟨rfl, -⟩ := List.cons.inj heq
      exact absurd hc (by decide)
  | @string source plain =>
    rw [List.cons_append, List.cons_append, List.append_assoc, List.singleton_append]
    change (splitString (source ++ '"' :: rest)).map _ = _
    rw [splitString_of_isPlain plain]
    rfl
  | _ => rfl

theorem isNumberPart_of_isSpace {c : Char} (h : isSpace c = true) : isNumberPart c = false := by
  simp only [isSpace, Bool.or_eq_true, beq_iff_eq] at h
  rcases h with ((rfl | rfl) | rfl) | rfl <;> decide

/-- Behind a value stands space, a mark, or nothing. -/
theorem Layout.stopsNumber {ts : List Token} {cs : List Char} (h : Layout ts cs)
    (hmark : ∀ t ∈ ts.head?, t.isMark = true) : StopsNumber cs := by
  cases h with
  | done space =>
    intro c hc
    exact isNumberPart_of_isSpace (space c (List.mem_of_mem_head? hc))
  | @next ws text rest token later space spelled tail =>
    intro c hc
    cases ws with
    | cons d ws =>
      obtain rfl : d = c := by simpa using hc
      exact isNumberPart_of_isSpace (space d List.mem_cons_self)
    | nil =>
      have htoken := hmark token rfl
      cases spelled <;> simp_all [Token.isMark] <;> subst hc <;> decide

/-- Splitting a text gives back the tokens that it was laid out from. -/
theorem tokens_of_layout {ts : List Token} {cs : List Char} (h : Layout ts cs)
    (hseparated : Separated ts) : tokens cs = some ts := by
  induction h with
  | done space =>
    have := tokens_append_of_space space []
    rwa [List.append_nil, tokens_nil] at this
  | @next ws text rest token later space spelled tail ih =>
    obtain ⟨hneighbour, hlater⟩ := List.isChain_cons.1 hseparated
    have hstops : token.isMark = false → StopsNumber rest := by
      intro hmark
      apply tail.stopsNumber
      intro t ht
      exact (hneighbour t ht).resolve_left (by simp [hmark])
    have hsplit := splitToken_of_spelled spelled hstops
    rw [List.append_assoc, tokens_append_of_space space]
    obtain ⟨c, cs, hcs, hc⟩ := spelled.exists_cons
    rw [hcs, List.cons_append] at hsplit ⊢
    rw [tokens_of_splitToken hc hsplit, ih hlater]
    rfl

end SeriesGateway.Json
