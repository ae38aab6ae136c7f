import SeriesGateway.Text.Percent

namespace SeriesGateway.Json

/-- A number as it is written: digits, the digits behind a point, and a signed exponent. -/
structure NumberText where
  negative : Bool
  whole : List Char
  fraction : Option (List Char)
  exponent : Option (Bool × List Char)
  deriving DecidableEq, Repr

/-- A token of a JSON text. Numbers and strings are kept as they are written, so that it is the
reader of a token who decides what it means. -/
inductive Token where
  | braceOpen
  | braceClose
  | bracketOpen
  | bracketClose
  | comma
  | colon
  | null
  | boolean (value : Bool)
  | number (text : NumberText)
  /-- A string by the text between its quotes, escapes and all. -/
  | string (source : List Char)
  deriving DecidableEq, Repr

/-- The four characters that may stand between tokens. -/
def isSpace (c : Char) : Bool :=
  c == ' ' || c == '\t' || c == '\n' || c == '\r'

def isHex (c : Char) : Bool :=
  (Percent.hexValue? c).isSome

/-- The letters that may follow a backslash alone. -/
def isShortEscape (c : Char) : Bool :=
  c == '"' || c == '\\' || c == '/' || c == 'b' || c == 'f' || c == 'n' || c == 'r' || c == 't'

/-- What stands before the closing quote of a string, and what follows the quote. -/
def splitString : List Char → Option (List Char × List Char)
  | [] => none
  | '"' :: rest => some ([], rest)
  | '\\' :: 'u' :: a :: b :: c :: d :: rest =>
    if isHex a && isHex b && isHex c && isHex d then
      (splitString rest).map fun (source, behind) =>
        ('\\' :: 'u' :: a :: b :: c :: d :: source, behind)
    else none
  | '\\' :: c :: rest =>
    if isShortEscape c then
      (splitString rest).map fun (source, behind) => ('\\' :: c :: source, behind)
    else none
  | c :: rest =>
    if c == '\\' || c.toNat < 0x20 then none
    else (splitString rest).map fun (source, behind) => (c :: source, behind)

/-- A nonempty run of digits, and what follows it. -/
def splitDigits (cs : List Char) : Option (List Char × List Char) :=
  if (cs.takeWhile Char.isDigit).isEmpty then none
  else some (cs.takeWhile Char.isDigit, cs.dropWhile Char.isDigit)

/-- The integer part: a zero alone, or digits that do not start with one. -/
def splitWhole : List Char → Option (List Char × List Char)
  | '0' :: rest => some (['0'], rest)
  | cs => splitDigits cs

/-- The digits behind a point, if there is a point. -/
def splitFraction : List Char → Option (Option (List Char) × List Char)
  | '.' :: rest => (splitDigits rest).map fun (digits, behind) => (some digits, behind)
  | cs => some (none, cs)

/-- Whether a minus sign leads, and what follows a sign of either kind. -/
def splitSign : List Char → Bool × List Char
  | '-' :: rest => (true, rest)
  | '+' :: rest => (false, rest)
  | cs => (false, cs)

/-- The sign and the digits of an exponent, if there is one. -/
def splitExponent : List Char → Option (Option (Bool × List Char) × List Char)
  | [] => some (none, [])
  | c :: rest =>
    if c == 'e' || c == 'E' then
      (splitDigits (splitSign rest).2).map fun (digits, behind) =>
        (some ((splitSign rest).1, digits), behind)
    else some (none, c :: rest)

def splitUnsigned (negative : Bool) (cs : List Char) : Option (NumberText × List Char) := do
  let (whole, rest) ← splitWhole cs
  let (fraction, rest) ← splitFraction rest
  let (exponent, rest) ← splitExponent rest
  return (⟨negative, whole, fraction, exponent⟩, rest)

def splitNumber : List Char → Option (NumberText × List Char)
  | '-' :: rest => splitUnsigned true rest
  | cs => splitUnsigned false cs

/-- The first token of a text that starts with one. -/
def splitToken : List Char → Option (Token × List Char)
  | '{' :: rest => some (.braceOpen, rest)
  | '}' :: rest => some (.braceClose, rest)
  | '[' :: rest => some (.bracketOpen, rest)
  | ']' :: rest => some (.bracketClose, rest)
  | ',' :: rest => some (.comma, rest)
  | ':' :: rest => some (.colon, rest)
  | 'n' :: 'u' :: 'l' :: 'l' :: rest => some (.null, rest)
  | 't' :: 'r' :: 'u' :: 'e' :: rest => some (.boolean true, rest)
  | 'f' :: 'a' :: 'l' :: 's' :: 'e' :: rest => some (.boolean false, rest)
  | '"' :: rest => (splitString rest).map fun (source, behind) => (.string source, behind)
  | cs => (splitNumber cs).map fun (number, behind) => (.number number, behind)

theorem length_of_splitString {cs source behind : List Char}
    (h : splitString cs = some (source, behind)) : behind.length < cs.length := by
  fun_induction splitString cs generalizing source with
  | case1 => simp at h
  | case2 rest =>
    simp only [Option.some.injEq, Prod.mk.injEq] at h
    simp [h.2]
  | case3 a b c d rest _ ih =>
    obtain ⟨⟨s, t⟩, hs, he⟩ := Option.map_eq_some_iff.1 h
    simp only [Prod.mk.injEq] at he
    have := ih (he.2 ▸ hs)
    simp only [List.length_cons]
    omega
  | case4 => simp at h
  | case5 c rest _ _ ih =>
    obtain ⟨⟨s, t⟩, hs, he⟩ := Option.map_eq_some_iff.1 h
    simp only [Prod.mk.injEq] at he
    have := ih (he.2 ▸ hs)
    simp only [List.length_cons]
    omega
  | case6 => simp at h
  | case7 => simp at h
  | case8 c rest _ _ _ _ ih =>
    obtain ⟨⟨s, t⟩, hs, he⟩ := Option.map_eq_some_iff.1 h
    simp only [Prod.mk.injEq] at he
    have := ih (he.2 ▸ hs)
    simp only [List.length_cons]
    omega

theorem length_dropWhile_le (p : Char → Bool) (cs : List Char) :
    (cs.dropWhile p).length ≤ cs.length :=
  (List.dropWhile_sublist p).length_le

theorem length_of_splitDigits {cs digits behind : List Char}
    (h : splitDigits cs = some (digits, behind)) : behind.length < cs.length := by
  unfold splitDigits at h
  split at h
  · simp at h
  · rename_i hne
    simp only [Option.some.injEq, Prod.mk.injEq] at h
    rw [← h.2]
    cases cs with
    | nil => simp at hne
    | cons c rest =>
      have hc : c.isDigit = true := by
        cases hd : c.isDigit <;> simp [hd] at hne ⊢
      have := length_dropWhile_le Char.isDigit rest
      simp only [List.dropWhile_cons, hc, if_true, List.length_cons]
      omega

theorem length_of_splitWhole {cs digits behind : List Char}
    (h : splitWhole cs = some (digits, behind)) : behind.length < cs.length := by
  unfold splitWhole at h
  split at h
  · simp only [Option.some.injEq, Prod.mk.injEq] at h
    simp [← h.2]
  · exact length_of_splitDigits h

theorem length_of_splitFraction {cs behind : List Char} {fraction : Option (List Char)}
    (h : splitFraction cs = some (fraction, behind)) : behind.length ≤ cs.length := by
  unfold splitFraction at h
  split at h
  · obtain ⟨⟨d, t⟩, hd, he⟩ := Option.map_eq_some_iff.1 h
    simp only [Prod.mk.injEq] at he
    have := length_of_splitDigits hd
    simp only [List.length_cons, ← he.2]
    omega
  · simp only [Option.some.injEq, Prod.mk.injEq] at h
    simp [h.2]

theorem length_splitSign_le (cs : List Char) : (splitSign cs).2.length ≤ cs.length := by
  unfold splitSign
  split <;> simp

theorem length_of_splitExponent {cs behind : List Char} {exponent : Option (Bool × List Char)}
    (h : splitExponent cs = some (exponent, behind)) : behind.length ≤ cs.length := by
  unfold splitExponent at h
  split at h
  · simp only [Option.some.injEq, Prod.mk.injEq] at h
    simp [← h.2]
  · rename_i c rest
    split at h
    · obtain ⟨⟨d, t⟩, hd, he⟩ := Option.map_eq_some_iff.1 h
      simp only [Prod.mk.injEq] at he
      have := length_of_splitDigits hd
      have := length_splitSign_le rest
      simp only [List.length_cons, ← he.2]
      omega
    · simp only [Option.some.injEq, Prod.mk.injEq] at h
      simp [← h.2]

theorem length_of_splitUnsigned {negative : Bool} {cs behind : List Char} {n : NumberText}
    (h : splitUnsigned negative cs = some (n, behind)) : behind.length < cs.length := by
  simp only [splitUnsigned, Option.bind_eq_bind, Option.bind_eq_some_iff] at h
  obtain ⟨⟨w, a⟩, hw, ⟨f, b⟩, hf, ⟨e, c⟩, he, hr⟩ := h
  simp only [Option.pure_def, Option.some.injEq, Prod.mk.injEq] at hr
  have := length_of_splitWhole hw
  have : b.length ≤ a.length := length_of_splitFraction hf
  have : c.length ≤ b.length := length_of_splitExponent he
  rw [← hr.2]
  omega

theorem length_of_splitNumber {cs behind : List Char} {n : NumberText}
    (h : splitNumber cs = some (n, behind)) : behind.length < cs.length := by
  unfold splitNumber at h
  split at h
  · have := length_of_splitUnsigned h
    simp only [List.length_cons]
    omega
  · exact length_of_splitUnsigned h

/-- A token takes at least one character. -/
theorem length_of_splitToken {cs behind : List Char} {token : Token}
    (h : splitToken cs = some (token, behind)) : behind.length < cs.length := by
  unfold splitToken at h
  split at h
  case h_10 =>
    obtain ⟨⟨s, t⟩, hs, he⟩ := Option.map_eq_some_iff.1 h
    simp only [Prod.mk.injEq] at he
    have := length_of_splitString hs
    simp only [List.length_cons, ← he.2]
    omega
  case h_11 =>
    obtain ⟨⟨s, t⟩, hs, he⟩ := Option.map_eq_some_iff.1 h
    simp only [Prod.mk.injEq] at he
    exact he.2 ▸ length_of_splitNumber hs
  all_goals
    simp only [Option.some.injEq, Prod.mk.injEq] at h
    simp only [← h.2, List.length_cons]
    omega

/-- All tokens of a text, unless it holds something that is neither a token nor space. -/
def tokens (cs : List Char) : Option (List Token) :=
  match cs with
  | [] => some []
  | c :: rest =>
    if isSpace c then tokens rest
    else
      match h : splitToken (c :: rest) with
      | none => none
      | some (token, behind) =>
        have := length_of_splitToken h
        (tokens behind).map (token :: ·)
termination_by cs.length
decreasing_by
  · exact Nat.lt_succ_self _
  · assumption

end SeriesGateway.Json
