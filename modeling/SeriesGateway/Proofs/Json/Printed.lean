import SeriesGateway.Proofs.Json.Real

namespace SeriesGateway.Json

theorem intercalate_comma (first : List Char) (later : List (List Char)) :
    [','].intercalate (first :: later) = first ++ later.flatMap (',' :: ·) := by
  induction later generalizing first with
  | nil => simp [List.intercalate_singleton]
  | cons next later ih =>
    rw [List.intercalate_cons_cons, ih, List.flatMap_cons]
    simp

namespace Raw

theorem text_laterItems (later : List Raw) :
    (laterItems later).flatMap Token.text =
      (later.map text).flatMap (',' :: ·) ++ [']'] := by
  induction later with
  | nil => rfl
  | cons item later ih =>
    rw [laterItems, List.flatMap_append, ih, List.map_cons, List.flatMap_cons]
    simp [text, Token.text]

theorem text_array (items : List Raw) :
    (array items).text = bracketed '[' ']' (items.map text) := by
  cases items with
  | nil => rfl
  | cons item later =>
    rw [text, tokens, List.flatMap_append, text_laterItems, bracketed, List.map_cons,
      intercalate_comma]
    simp [text, Token.text]

/-- The members of an object, with their names as they are written. -/
def named (members : List (String × Raw)) : List (List Char × Raw) :=
  members.map fun (name, v) => (escaped name, v)

theorem text_laterMembers (later : List (String × Raw)) :
    (laterMembers (named later)).flatMap Token.text =
      (later.map fun (name, v) => quoted name ++ ':' :: v.text).flatMap (',' :: ·) ++ ['\x7d'] := by
  induction later with
  | nil => rfl
  | cons member later ih =>
    obtain ⟨name, v⟩ := member
    rw [named, List.map_cons, laterMembers, List.flatMap_append, ← named, ih, List.map_cons,
      List.flatMap_cons]
    simp [text, Token.text, quoted, escaped]

theorem text_object (members : List (String × Raw)) :
    (object (named members)).text = objectText (members.map fun (name, v) => (name, v.text)) := by
  cases members with
  | nil => rfl
  | cons member later =>
    obtain ⟨name, v⟩ := member
    rw [text, named, List.map_cons, tokens, List.flatMap_append, ← named, text_laterMembers,
      objectText, bracketed, List.map_map, List.map_cons, intercalate_comma]
    simp [text, Token.text, quoted, escaped, Function.comp_def]

theorem isProper_laterItems {later : List Raw} (h : ∀ v ∈ later, v.IsProper) :
    ∀ t ∈ laterItems later, t.IsProper := by
  induction later with
  | nil => simp [laterItems, Token.IsProper]
  | cons item later ih =>
    rw [List.forall_mem_cons] at h
    rw [laterItems, List.cons_append, List.forall_mem_cons, List.forall_mem_append]
    exact ⟨trivial, h.1, ih h.2⟩

theorem isProper_array {items : List Raw} (h : ∀ v ∈ items, v.IsProper) :
    (array items).IsProper := by
  cases items with
  | nil => simp [IsProper, tokens, Token.IsProper]
  | cons item later =>
    rw [List.forall_mem_cons] at h
    rw [IsProper, tokens, List.cons_append, List.forall_mem_cons, List.forall_mem_append]
    exact ⟨trivial, h.1, isProper_laterItems h.2⟩

theorem isProper_laterMembers {later : List (String × Raw)} (h : ∀ m ∈ later, m.2.IsProper) :
    ∀ t ∈ laterMembers (named later), t.IsProper := by
  induction later with
  | nil => simp [named, laterMembers, Token.IsProper]
  | cons member later ih =>
    rw [List.forall_mem_cons] at h
    rw [named, List.map_cons, laterMembers, List.forall_mem_append, ← named]
    refine ⟨?_, ih h.2⟩
    simp only [List.forall_mem_cons]
    exact ⟨trivial, ⟨_, rfl⟩, trivial, h.1⟩

theorem isProper_object {members : List (String × Raw)} (h : ∀ m ∈ members, m.2.IsProper) :
    (object (named members)).IsProper := by
  cases members with
  | nil => simp [IsProper, named, tokens, Token.IsProper]
  | cons member later =>
    rw [List.forall_mem_cons] at h
    rw [IsProper, named, List.map_cons, tokens, List.forall_mem_append, ← named]
    refine ⟨?_, isProper_laterMembers h.2⟩
    simp only [List.forall_mem_cons]
    exact ⟨trivial, ⟨_, rfl⟩, trivial, h.1⟩

theorem isProper_number {n : NumberText} (h : n.IsProper) : (number n).IsProper := by
  simpa [IsProper, tokens, Token.IsProper] using h

theorem isProper_string (s : String) : (string (escaped s)).IsProper := by
  simp [IsProper, tokens, Token.IsProper]

/-- A number as JSON has it. -/
def ofReal (x : Binary64) : Raw :=
  match splitNumber (realText x) with
  | some (n, _) => .number n
  | none => .null

theorem ofReal_of_isFinite {x : Binary64} (h : x.isFinite = true) :
    ∃ n : NumberText, ofReal x = .number n ∧ n.IsProper ∧ n.text = realText x ∧
      Binary64.ofText? n.text = some x := by
  obtain ⟨n, hproper, htext, hread⟩ := exists_text_eq_realText h
  have hstops : StopsNumber [] := by rintro c ⟨⟩
  have hsplit := NumberText.splitNumber_text hproper hstops
  rw [List.append_nil, htext] at hsplit
  exact ⟨n, by rw [ofReal, hsplit], hproper, htext, hread⟩

theorem ofReal_of_not_isFinite {x : Binary64} (h : x.isFinite = false) : ofReal x = .null := by
  rw [ofReal, realText_of_not_isFinite h]
  rfl

theorem text_ofReal (x : Binary64) : (ofReal x).text = realText x := by
  cases hfinite : x.isFinite with
  | true =>
    obtain ⟨n, hn, -, htext, -⟩ := ofReal_of_isFinite hfinite
    rw [hn, ← htext]
    simp [text, tokens, Token.text]
  | false =>
    rw [ofReal_of_not_isFinite hfinite, realText_of_not_isFinite hfinite]
    rfl

theorem isProper_ofReal (x : Binary64) : (ofReal x).IsProper := by
  cases hfinite : x.isFinite with
  | true =>
    obtain ⟨n, hn, hproper, -, -⟩ := ofReal_of_isFinite hfinite
    rw [hn]
    exact isProper_number hproper
  | false =>
    rw [ofReal_of_not_isFinite hfinite]
    simp [IsProper, tokens, Token.IsProper]

end Raw

namespace Value

mutual

/-- The structure that a value is printed as. -/
def raw : Value → Raw
  | .null => .null
  | .boolean b => .boolean b
  | .integer n => .number (.ofInt n)
  | .real x => .ofReal x
  | .string s => .string (escaped s)
  | .array items => .array (raws items)
  | .object members => .object (Raw.named (memberRaws members))

def raws : List Value → List Raw
  | [] => []
  | item :: rest => item.raw :: raws rest

def memberRaws : List (String × Value) → List (String × Raw)
  | [] => []
  | (name, value) :: rest => (name, value.raw) :: memberRaws rest

end

mutual

theorem text_raw (v : Value) : v.raw.text = v.text := by
  match v with
  | .null | .boolean true | .boolean false => rfl
  | .integer n =>
    rw [raw, text, ← NumberText.text_ofInt]
    simp [Raw.text, Raw.tokens, Token.text]
  | .real x => exact Raw.text_ofReal x
  | .string s => simp [raw, text, Raw.text, Raw.tokens, Token.text, quoted, escaped]
  | .array items => rw [raw, text, Raw.text_array, map_text_raws items]
  | .object members => rw [raw, text, Raw.text_object, map_text_memberRaws members]

theorem map_text_raws (items : List Value) : (raws items).map Raw.text = texts items := by
  match items with
  | [] => rfl
  | item :: rest => rw [raws, texts, List.map_cons, text_raw item, map_text_raws rest]

theorem map_text_memberRaws (members : List (String × Value)) :
    (memberRaws members).map (fun (name, v) => (name, v.text)) = memberTexts members := by
  match members with
  | [] => rfl
  | (name, value) :: rest =>
    rw [memberRaws, memberTexts, List.map_cons, map_text_memberRaws rest]
    exact congrArg (fun text => (name, text) :: memberTexts rest) (text_raw value)

end

mutual

theorem isProper_raw (v : Value) : v.raw.IsProper := by
  match v with
  | .null | .boolean _ => simp [raw, Raw.IsProper, Raw.tokens, Token.IsProper]
  | .integer n => exact Raw.isProper_number (NumberText.isProper_ofInt n)
  | .real x => exact Raw.isProper_ofReal x
  | .string s => exact Raw.isProper_string s
  | .array items => exact Raw.isProper_array (isProper_of_mem_raws items)
  | .object members => exact Raw.isProper_object (isProper_of_mem_memberRaws members)

theorem isProper_of_mem_raws (items : List Value) : ∀ v ∈ raws items, v.IsProper := by
  match items with
  | [] => simp [raws]
  | item :: rest =>
    rw [raws, List.forall_mem_cons]
    exact ⟨isProper_raw item, isProper_of_mem_raws rest⟩

theorem isProper_of_mem_memberRaws (members : List (String × Value)) :
    ∀ m ∈ memberRaws members, m.2.IsProper := by
  match members with
  | [] => simp [memberRaws]
  | (name, value) :: rest =>
    rw [memberRaws, List.forall_mem_cons]
    exact ⟨isProper_raw value, isProper_of_mem_memberRaws rest⟩

end

/-- Every value is printed as a JSON text, and the structure of the text is that of the value. -/
theorem ofText?_text (v : Value) : Raw.ofText? v.text = some v.raw := by
  rw [← text_raw]
  exact Raw.ofText?_text v.isProper_raw

end Value

end SeriesGateway.Json
