import SeriesGateway.Json.Raw
import SeriesGateway.Proofs.Json.Layout

namespace SeriesGateway.Json.Raw

mutual

/-- The tokens that a structure is written with. -/
def tokens : Raw → List Token
  | .null => [.null]
  | .boolean b => [.boolean b]
  | .number n => [.number n]
  | .string source => [.string source]
  | .array [] => [.bracketOpen, .bracketClose]
  | .array (item :: later) => .bracketOpen :: item.tokens ++ laterItems later
  | .object [] => [.braceOpen, .braceClose]
  | .object ((name, value) :: later) =>
    .braceOpen :: .string name :: .colon :: value.tokens ++ laterMembers later

/-- The items behind a first one, each behind a comma, and the closing bracket. -/
def laterItems : List Raw → List Token
  | [] => [.bracketClose]
  | item :: later => .comma :: item.tokens ++ laterItems later

def laterMembers : List (List Char × Raw) → List Token
  | [] => [.braceClose]
  | (name, value) :: later =>
    .comma :: .string name :: .colon :: value.tokens ++ laterMembers later

end

theorem run_cons {state next : State} {token : Token} (h : step? state token = some next)
    (rest : List Token) : run state (token :: rest) = run next rest := by
  rw [run.eq_def]
  split
  · rename_i heq
    cases heq
  · rename_i heq
    cases heq
  · rename_i heq
    cases heq
    rw [h]

/-- A first item is read like any other, as it does not start with the closing bracket. -/
theorem run_firstItem (item : Raw) (stack : List Frame) (rest : List Token) :
    run (.firstItem stack) (item.tokens ++ rest) =
      run (.value (.array [] :: stack)) (item.tokens ++ rest) := by
  obtain ⟨token, later, htokens, hne⟩ :
      ∃ token later, item.tokens = token :: later ∧ token ≠ .bracketClose := by
    unfold tokens
    split <;> exact ⟨_, _, rfl, by simp⟩
  rw [htokens, List.cons_append, run.eq_def, run.eq_def (.value _)]
  have hstep : step? (.firstItem stack) token = step? (.value (.array [] :: stack)) token := by
    cases token <;> first | rfl | exact absurd rfl hne
  simp only [hstep]

mutual

/-- Reading the tokens of a structure ends right behind it, whatever brackets are open and whatever
tokens follow. -/
theorem run_tokens (v : Raw) (stack : List Frame) (rest : List Token) :
    run (.value stack) (v.tokens ++ rest) = run (.complete v stack) rest := by
  match v with
  | .null | .boolean _ | .number _ | .string _ => exact run_cons rfl rest
  | .array [] => exact (run_cons rfl _).trans (run_cons rfl rest)
  | .array (item :: later) =>
    rw [tokens, List.cons_append, List.cons_append, List.append_assoc, run_cons rfl,
      run_firstItem, run_tokens item, run_laterItems later]
    rfl
  | .object [] => exact (run_cons rfl _).trans (run_cons rfl rest)
  | .object ((name, value) :: later) =>
    simp only [tokens, List.cons_append, List.append_assoc]
    rw [run_cons rfl, run_cons rfl, run_cons rfl, run_tokens value, run_laterMembers later]
    rfl

theorem run_laterItems (later : List Raw) (last : Raw) (items : List Raw) (stack : List Frame)
    (rest : List Token) :
    run (.complete last (.array items :: stack)) (laterItems later ++ rest) =
      run (.complete (.array ((last :: items).reverse ++ later)) stack) rest := by
  match later with
  | [] =>
    rw [List.append_nil]
    exact run_cons rfl rest
  | item :: later =>
    rw [laterItems, List.cons_append, List.cons_append, List.append_assoc, run_cons rfl,
      run_tokens item, run_laterItems later]
    simp

theorem run_laterMembers (later : List (List Char × Raw)) (name : List Char) (last : Raw)
    (members : List (List Char × Raw)) (stack : List Frame) (rest : List Token) :
    run (.complete last (.object members name :: stack)) (laterMembers later ++ rest) =
      run (.complete (.object (((name, last) :: members).reverse ++ later)) stack) rest := by
  match later with
  | [] =>
    rw [List.append_nil]
    exact run_cons rfl rest
  | (next, value) :: later =>
    simp only [laterMembers, List.cons_append, List.append_assoc]
    rw [run_cons rfl, run_cons rfl, run_cons rfl, run_tokens value, run_laterMembers later]
    simp

end

theorem separated_mark_cons {mark : Token} {ts : List Token} (hmark : mark.isMark = true)
    (h : Separated ts) : Separated (mark :: ts) :=
  List.isChain_cons.2 ⟨fun _ _ => Or.inl hmark, h⟩

theorem separated_append_mark {front : List Token} {mark : Token} {behind : List Token}
    (hfront : Separated front) (hmark : mark.isMark = true) (hbehind : Separated (mark :: behind)) :
    Separated (front ++ mark :: behind) := by
  refine List.isChain_append.2 ⟨hfront, hbehind, ?_⟩
  intro a _ b hb
  obtain rfl : mark = b := by simpa using hb
  exact Or.inr hmark

/-- A mark before a value parts it from a name. -/
theorem separated_named {name : List Char} {ts : List Token} (h : Separated ts) :
    Separated (.string name :: .colon :: ts) :=
  List.isChain_cons_cons.2 ⟨Or.inr rfl, separated_mark_cons rfl h⟩

mutual

theorem separated_tokens (v : Raw) : Separated v.tokens := by
  match v with
  | .null | .boolean _ | .number _ | .string _ => exact List.isChain_singleton _
  | .array [] => exact separated_mark_cons rfl (List.isChain_singleton _)
  | .array (item :: later) =>
    exact separated_mark_cons rfl (separated_append_laterItems (separated_tokens item) later)
  | .object [] => exact separated_mark_cons rfl (List.isChain_singleton _)
  | .object ((name, value) :: later) =>
    exact separated_mark_cons rfl
      (separated_named (separated_append_laterMembers (separated_tokens value) later))

theorem separated_append_laterItems {front : List Token} (hfront : Separated front)
    (later : List Raw) : Separated (front ++ laterItems later) := by
  match later with
  | [] => exact separated_append_mark hfront rfl (List.isChain_singleton _)
  | item :: later =>
    exact separated_append_mark hfront rfl
      (separated_mark_cons rfl (separated_append_laterItems (separated_tokens item) later))

theorem separated_append_laterMembers {front : List Token} (hfront : Separated front)
    (later : List (List Char × Raw)) : Separated (front ++ laterMembers later) := by
  match later with
  | [] => exact separated_append_mark hfront rfl (List.isChain_singleton _)
  | (name, value) :: later =>
    exact separated_append_mark hfront rfl (separated_mark_cons rfl
      (separated_named (separated_append_laterMembers (separated_tokens value) later)))

end

/-- Whatever the space between its tokens, a structure is read back as it was written. -/
theorem ofText?_of_layout {v : Raw} {cs : List Char} (h : Layout v.tokens cs) :
    ofText? cs = some v := by
  have hrun := run_tokens v [] []
  rw [List.append_nil] at hrun
  rw [ofText?, tokens_of_layout h (separated_tokens v), Option.bind_some, hrun]
  rfl

/-- White space alone is no structure. -/
theorem ofText?_of_all_isBlank {cs : List Char} (h : ∀ c ∈ cs, Text.isBlank c = true) :
    ofText? cs = none := by
  rcases tokens_of_all_isBlank h with hnone | hnil
  · rw [ofText?, hnone]
    rfl
  · rw [ofText?, hnil]
    rfl

end SeriesGateway.Json.Raw
