import SeriesGateway.Json.Value
import SeriesGateway.Json.Printer
import SeriesGateway.Proofs.Json.Value

namespace SeriesGateway.Json

/-- A nonempty run of digits. -/
def IsDigits (cs : List Char) : Prop :=
  cs ≠ [] ∧ ∀ c ∈ cs, c.isDigit = true

theorem isDigits_text (n : Nat) : IsDigits (Numeral.text n) :=
  ⟨Numeral.text_ne_nil n, fun _ => Numeral.isDigit_of_mem_text⟩

/-- A run of digits ends where no digit follows it. -/
theorem IsDigits.span_append {ds rest : List Char} (hds : IsDigits ds)
    (hrest : ∀ c ∈ rest.head?, c.isDigit = false) :
    (ds ++ rest).takeWhile Char.isDigit = ds ∧ (ds ++ rest).dropWhile Char.isDigit = rest := by
  rw [List.takeWhile_append_of_pos hds.2, List.dropWhile_append_of_pos hds.2]
  cases rest with
  | nil => simp
  | cons c rest => simp [hrest c rfl]

theorem splitDigits_append {ds rest : List Char} (hds : IsDigits ds)
    (hrest : ∀ c ∈ rest.head?, c.isDigit = false) : splitDigits (ds ++ rest) = some (ds, rest) := by
  obtain ⟨htake, hdrop⟩ := hds.span_append hrest
  rw [splitDigits, htake, hdrop]
  simp [hds.1]

namespace NumberText

def fractionText : Option (List Char) → List Char
  | none => []
  | some digits => '.' :: digits

/-- An exponent shows its sign always. -/
def exponentText : Option (Bool × List Char) → List Char
  | none => []
  | some (negative, digits) => 'e' :: (if negative then '-' else '+') :: digits

def unsignedText (n : NumberText) : List Char :=
  n.whole ++ fractionText n.fraction ++ exponentText n.exponent

def text (n : NumberText) : List Char :=
  if n.negative then '-' :: n.unsignedText else n.unsignedText

/-- Digits wherever there must be some, and no zero before others. -/
structure IsProper (n : NumberText) : Prop where
  whole : IsDigits n.whole
  lead : n.whole.head? = some '0' → n.whole = ['0']
  fraction : ∀ digits ∈ n.fraction, IsDigits digits
  exponent : ∀ e ∈ n.exponent, IsDigits e.2

theorem text_ofInt (n : Int) : (ofInt n).text = Numeral.intText n := by
  cases n with
  | ofNat n => simp [ofInt, text, unsignedText, fractionText, exponentText, Numeral.intText]
  | negSucc n =>
    simp [ofInt, text, unsignedText, fractionText, exponentText, Numeral.intText,
      Int.negSucc_lt_zero]

theorem isProper_ofInt (n : Int) : (ofInt n).IsProper where
  whole := isDigits_text _
  lead h := by
    obtain ⟨cs, hcs⟩ := List.head?_eq_some_iff.1 h
    obtain ⟨-, rfl⟩ := Numeral.text_eq_of_head_zero hcs
    exact hcs
  fraction := by simp [ofInt]
  exponent := by simp [ofInt]

end NumberText

/-- The digits before the point are split off whole: a zero is not split from digits behind it. -/
theorem splitWhole_append {ds rest : List Char} (hds : IsDigits ds)
    (hlead : ds.head? = some '0' → ds = ['0'])
    (hrest : ∀ c ∈ rest.head?, c.isDigit = false) : splitWhole (ds ++ rest) = some (ds, rest) := by
  unfold splitWhole
  split
  · rename_i behind heq
    obtain ⟨c, cs, rfl⟩ := List.exists_cons_of_ne_nil hds.1
    obtain ⟨rfl, hbehind⟩ := List.cons.inj heq
    obtain ⟨-, rfl⟩ := List.cons.inj (hlead rfl)
    rw [← hbehind]
    rfl
  · exact splitDigits_append hds hrest

theorem StopsNumber.isDigit_head? {rest : List Char} (h : StopsNumber rest) :
    ∀ c ∈ rest.head?, c.isDigit = false := by
  intro c hc
  have := h c hc
  simp only [isNumberPart, Bool.or_eq_false_iff] at this
  exact this.1.1.1

theorem splitExponent_text {exponent : Option (Bool × List Char)} {rest : List Char}
    (h : ∀ e ∈ exponent, IsDigits e.2) (hrest : StopsNumber rest) :
    splitExponent (NumberText.exponentText exponent ++ rest) = some (exponent, rest) := by
  match exponent with
  | none =>
    change splitExponent rest = some (none, rest)
    unfold splitExponent
    split
    · rfl
    · rename_i c behind
      have hc := hrest c rfl
      simp only [isNumberPart, Bool.or_eq_false_iff] at hc
      simp [hc.1.2, hc.2]
  | some (negative, digits) =>
    have hsplit := splitDigits_append (h _ rfl) hrest.isDigit_head?
    cases negative <;> simp [NumberText.exponentText, splitExponent, splitSign, hsplit]

/-- No digit and no point stands where an exponent does. -/
theorem head?_exponentText (exponent : Option (Bool × List Char)) {rest : List Char}
    (hrest : StopsNumber rest) :
    ∀ c ∈ (NumberText.exponentText exponent ++ rest).head?, c.isDigit = false ∧ c ≠ '.' := by
  intro c hc
  match exponent with
  | none =>
    refine ⟨hrest.isDigit_head? c hc, ?_⟩
    rintro rfl
    exact absurd (hrest '.' hc) (by decide)
  | some (negative, digits) =>
    obtain rfl : 'e' = c := by simpa [NumberText.exponentText] using hc
    decide

theorem splitFraction_text {fraction : Option (List Char)} {rest : List Char}
    (h : ∀ digits ∈ fraction, IsDigits digits)
    (hrest : ∀ c ∈ rest.head?, c.isDigit = false ∧ c ≠ '.') :
    splitFraction (NumberText.fractionText fraction ++ rest) = some (fraction, rest) := by
  match fraction with
  | none =>
    change splitFraction rest = some (none, rest)
    unfold splitFraction
    split
    · exact absurd rfl (hrest '.' rfl).2
    · rfl
  | some digits =>
    have hsplit := splitDigits_append (h _ rfl) fun c hc => (hrest c hc).1
    simp [NumberText.fractionText, splitFraction, hsplit]

theorem isDigit_head?_fractionText (fraction : Option (List Char)) {rest : List Char}
    (hrest : ∀ c ∈ rest.head?, c.isDigit = false ∧ c ≠ '.') :
    ∀ c ∈ (NumberText.fractionText fraction ++ rest).head?, c.isDigit = false := by
  intro c hc
  match fraction with
  | none => exact (hrest c hc).1
  | some digits =>
    obtain rfl : '.' = c := by simpa [NumberText.fractionText] using hc
    decide

namespace NumberText

variable {n : NumberText}

theorem splitUnsigned_unsignedText (h : n.IsProper) {rest : List Char} (hrest : StopsNumber rest)
    (negative : Bool) :
    splitUnsigned negative (n.unsignedText ++ rest) = some ({ n with negative }, rest) := by
  have hexponent := splitExponent_text h.exponent hrest
  have hfraction := splitFraction_text h.fraction (head?_exponentText n.exponent hrest)
  have hwhole := splitWhole_append h.whole h.lead
    (isDigit_head?_fractionText n.fraction (head?_exponentText n.exponent hrest))
  rw [unsignedText, List.append_assoc, List.append_assoc]
  simp [splitUnsigned, hwhole, hfraction, hexponent]

/-- The first character of a numeral is a sign or a digit. -/
theorem exists_text_eq_cons (h : n.IsProper) :
    ∃ c cs, n.text = c :: cs ∧ (c.isDigit = true ∨ c = '-') ∧ (c = '-' → n.negative = true) := by
  obtain ⟨hne, hdigits⟩ := h.whole
  obtain ⟨c, cs, hcs⟩ := List.exists_cons_of_ne_nil hne
  have hc : c.isDigit = true := hdigits c (by simp [hcs])
  rw [text]
  split_ifs with hnegative
  · exact ⟨'-', _, rfl, Or.inr rfl, fun _ => hnegative⟩
  · refine ⟨c, _, by rw [unsignedText, hcs]; rfl, Or.inl hc, ?_⟩
    rintro rfl
    cases hc

/-- A numeral is split off whole, if nothing follows that goes on it. -/
theorem splitNumber_text (h : n.IsProper) {rest : List Char} (hrest : StopsNumber rest) :
    splitNumber (n.text ++ rest) = some (n, rest) := by
  obtain ⟨c, cs, hcs, -, hsign⟩ := exists_text_eq_cons h
  have hsplit := splitUnsigned_unsignedText h hrest n.negative
  cases hnegative : n.negative with
  | true =>
    rw [text, if_pos hnegative]
    rw [hnegative] at hsplit
    exact hsplit.trans (by rw [← hnegative])
  | false =>
    have htext : n.text = n.unsignedText := by rw [text, hnegative]; rfl
    rw [hnegative] at hsplit
    unfold splitNumber
    split
    · rename_i heq
      rw [hcs] at heq
      have := hsign (List.cons.inj heq).1
      rw [hnegative] at this
      cases this
    · rw [htext, hsplit, ← hnegative]

end NumberText

/-- The text between the quotes of a string. -/
def escaped (s : String) : List Char :=
  s.toList.flatMap escapeChar

theorem codeUnit?_lowerHexDigit {n : Nat} (h : n < 0x20) :
    isHex (lowerHexDigit (n / 16)) = true ∧ isHex (lowerHexDigit (n % 16)) = true ∧
      codeUnit? '0' '0' (lowerHexDigit (n / 16)) (lowerHexDigit (n % 16)) = some n := by
  revert h
  revert n
  decide

/-- How a character is written: after a backslash alone, by its number, or as it is. -/
theorem escapeChar_cases (c : Char) :
    (∃ d, escapeChar c = ['\\', d] ∧ isShortEscape d = true ∧ shortEscape? d = some c) ∨
      (c.toNat < 0x20 ∧ escapeChar c =
        ['\\', 'u', '0', '0', lowerHexDigit (c.toNat / 16), lowerHexDigit (c.toNat % 16)]) ∨
      (escapeChar c = [c] ∧ c ≠ '"' ∧ c ≠ '\\' ∧ 0x20 ≤ c.toNat) := by
  unfold escapeChar
  split_ifs with hquote hslash hback hfeed hline hreturn htab hcontrol
  all_goals try
    rw [beq_iff_eq] at *
    subst c
    exact Or.inl ⟨_, rfl, by decide, by decide⟩
  · exact Or.inr (Or.inl ⟨hcontrol, rfl⟩)
  · refine Or.inr (Or.inr ⟨rfl, ?_, ?_, by omega⟩)
    · simpa using hquote
    · simpa using hslash

/-- A character is read off whole, whatever follows it. -/
theorem splitString_escapeChar (c : Char) (cs : List Char) :
    splitString (escapeChar c ++ cs) =
      (splitString cs).map fun (source, behind) => (escapeChar c ++ source, behind) := by
  obtain ⟨d, hd, hshort, -⟩ | ⟨hcontrol, hd⟩ | ⟨hd, hquote, hslash, hplain⟩ := escapeChar_cases c
  · have hu : d ≠ 'u' := by
      rintro rfl
      cases hshort
    rw [hd]
    simp only [List.cons_append, List.nil_append]
    rw [splitString]
    · rw [if_pos hshort]
    · exact fun _ _ _ _ _ heq _ => hu heq
  · obtain ⟨hhigh, hlow, -⟩ := codeUnit?_lowerHexDigit hcontrol
    have hzero : isHex '0' = true := by decide
    rw [hd]
    simp only [List.cons_append, List.nil_append, splitString, hzero, hhigh, hlow, Bool.and_self,
      if_true]
  · rw [hd]
    simp only [List.cons_append, List.nil_append]
    rw [splitString]
    · rw [if_neg (by simpa [hslash] using hplain)]
    · exact fun heq => hquote heq
    · exact fun _ _ _ _ _ heq _ => hslash heq
    · exact fun _ _ heq _ => hslash heq

theorem unescape?_escapeChar (c : Char) (cs : List Char) :
    unescape? (escapeChar c ++ cs) = (unescape? cs).map (c :: ·) := by
  obtain ⟨d, hd, hshort, hmeant⟩ | ⟨hcontrol, hd⟩ | ⟨hd, hquote, hslash, hplain⟩ :=
    escapeChar_cases c
  · have hu : d ≠ 'u' := by
      rintro rfl
      cases hshort
    rw [hd]
    simp only [List.cons_append, List.nil_append]
    rw [unescape?]
    · rw [hmeant]
    · exact fun _ _ _ _ _ heq _ => hu heq
  · obtain ⟨-, -, hunit⟩ := codeUnit?_lowerHexDigit hcontrol
    have hlow : isLowSurrogate c.toNat = false := by
      simp only [isLowSurrogate, Bool.and_eq_false_iff, decide_eq_false_iff_not]
      omega
    have hhigh : isHighSurrogate c.toNat = false := by
      simp only [isHighSurrogate, Bool.and_eq_false_iff, decide_eq_false_iff_not]
      omega
    rw [hd]
    simp only [List.cons_append, List.nil_append]
    rw [unescape?.eq_def]
    simp [hunit, hlow, hhigh]
  · rw [hd]
    simp only [List.cons_append, List.nil_append]
    rw [unescape?]
    · exact fun _ _ _ _ _ heq _ => hslash heq
    · exact fun _ _ heq _ => hslash heq

theorem splitString_escaped (s : String) (rest : List Char) :
    splitString (escaped s ++ '"' :: rest) = some (escaped s, rest) := by
  rw [escaped]
  induction s.toList with
  | nil => rfl
  | cons c cs ih => rw [List.flatMap_cons, List.append_assoc, splitString_escapeChar, ih]; rfl

/-- Every string is read back from its text. -/
theorem Raw.text?_escaped (s : String) : Raw.text? (escaped s) = some s := by
  have hunescape (cs : List Char) : unescape? (cs.flatMap escapeChar) = some cs := by
    induction cs with
    | nil => rfl
    | cons c cs ih => rw [List.flatMap_cons, unescape?_escapeChar, ih]; rfl
  rw [Raw.text?, escaped, hunescape, Option.map_some, String.ofList_toList]

namespace Token

def text : Token → List Char
  | .braceOpen => ['\x7b']
  | .braceClose => ['\x7d']
  | .bracketOpen => ['[']
  | .bracketClose => [']']
  | .comma => [',']
  | .colon => [':']
  | .null => ['n', 'u', 'l', 'l']
  | .boolean true => ['t', 'r', 'u', 'e']
  | .boolean false => ['f', 'a', 'l', 's', 'e']
  | .number n => n.text
  | .string source => '"' :: source ++ ['"']

/-- Numerals have digits where they must, and strings are those that an escaped text is. -/
def IsProper : Token → Prop
  | .number n => n.IsProper
  | .string source => ∃ s, source = escaped s
  | _ => True

/-- No token starts with space. -/
theorem exists_text_eq_cons {token : Token} (h : token.IsProper) :
    ∃ c cs, token.text = c :: cs ∧ isSpace c = false := by
  match token with
  | .number n =>
    obtain ⟨c, cs, hcs, hc, -⟩ := NumberText.exists_text_eq_cons h
    refine ⟨c, cs, hcs, ?_⟩
    cases hspace : isSpace c with
    | false => rfl
    | true =>
      simp only [isSpace, Bool.or_eq_true, beq_iff_eq] at hspace
      rcases hspace with ((rfl | rfl) | rfl) | rfl <;> exact absurd hc (by decide)
  | .boolean true | .boolean false | .braceOpen | .braceClose | .bracketOpen | .bracketClose
  | .comma | .colon | .null | .string _ => exact ⟨_, _, rfl, by decide⟩

/-- A token is split off whole, if what follows does not go on a numeral. -/
theorem splitToken_text {token : Token} (h : token.IsProper) {rest : List Char}
    (hrest : token.isMark = false → StopsNumber rest) :
    splitToken (token.text ++ rest) = some (token, rest) := by
  match token with
  | .number n =>
    have hsplit := NumberText.splitNumber_text h (hrest rfl)
    obtain ⟨c, cs, hcs, hc, -⟩ := NumberText.exists_text_eq_cons h
    rw [hcs] at hsplit
    rw [text, hcs]
    unfold splitToken
    split
    case h_11 => rw [hsplit]; rfl
    all_goals
      rename_i heq
      obtain ⟨rfl, -⟩ := List.cons.inj heq
      exact absurd hc (by decide)
  | .string source =>
    obtain ⟨s, rfl⟩ := h
    rw [text, List.cons_append, List.cons_append, List.append_assoc, List.singleton_append]
    change (splitString (escaped s ++ '"' :: rest)).map _ = _
    rw [splitString_escaped]
    rfl
  | .boolean true | .boolean false | .braceOpen | .braceClose | .bracketOpen | .bracketClose
  | .comma | .colon | .null => rfl

theorem stopsNumber_text {mark : Token} (h : mark.isMark = true) (rest : List Char) :
    StopsNumber (mark.text ++ rest) := by
  intro c hc
  cases mark <;> cases h <;> cases hc <;> rfl

end Token

/-- Splitting a text without space gives back the tokens that it was put together from. -/
theorem tokens_flatMap_text {ts : List Token} (hproper : ∀ t ∈ ts, t.IsProper)
    (hseparated : Separated ts) : tokens (ts.flatMap Token.text) = some ts := by
  induction ts with
  | nil => exact tokens_nil
  | cons token later ih =>
    obtain ⟨hneighbour, hlater⟩ := List.isChain_cons.1 hseparated
    have htoken := hproper token List.mem_cons_self
    have hstops : token.isMark = false → StopsNumber (later.flatMap Token.text) := by
      intro hmark
      cases later with
      | nil => rintro c ⟨⟩
      | cons next behind =>
        have hnext := (hneighbour next rfl).resolve_left (by simp [hmark])
        exact Token.stopsNumber_text hnext _
    have hsplit := Token.splitToken_text htoken hstops
    rw [List.flatMap_cons]
    obtain ⟨c, cs, hcs, hc⟩ := Token.exists_text_eq_cons htoken
    rw [hcs, List.cons_append] at hsplit ⊢
    rw [tokens_of_splitToken hc hsplit, ih (fun t ht => hproper t (List.mem_cons_of_mem _ ht)) hlater]
    rfl

namespace Raw

/-- The text of a structure without any space. -/
def text (v : Raw) : List Char :=
  v.tokens.flatMap Token.text

/-- A structure of which every token can be written. -/
def IsProper (v : Raw) : Prop :=
  ∀ t ∈ v.tokens, t.IsProper

theorem ofText?_text {v : Raw} (h : v.IsProper) : ofText? v.text = some v := by
  have hrun := run_tokens v [] []
  rw [List.append_nil] at hrun
  rw [ofText?, text, tokens_flatMap_text h (separated_tokens v), Option.bind_some, hrun]
  rfl

end Raw

end SeriesGateway.Json
