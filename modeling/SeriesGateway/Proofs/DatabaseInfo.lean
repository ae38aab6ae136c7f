import SeriesGateway.DatabaseInfo
import SeriesGateway.Proofs.Json.Printed

namespace SeriesGateway.DatabaseInfo

open Json

/-- The members that are written. -/
def members (d : DatabaseInfo) : List (String × Value) :=
  [("DBName", .string d.name), ("space_used", .integer d.spaceUsed.toNat),
    ("last_seq", .integer d.lastSequence.toNat), ("header_pos", .integer d.headerPosition.toNat),
    ("doc_count", .integer d.documentCount.toNat),
    ("deleted_count", .integer d.deletedCount.toNat)] ++
  d.error.toList.map fun error => ("Error", .string error)

theorem text_eq (d : DatabaseInfo) : d.text = (Value.object d.members).text := by
  rw [text, Value.text]
  cases herror : d.error <;>
    simp [memberTexts, members, herror, Value.memberTexts, Value.text, countText, Numeral.intText]

theorem string?_raw (s : String) : string? (some (Value.string s).raw) = some s :=
  Raw.text?_escaped s

theorem error?_raw (s : String) : error? (some (Value.string s).raw) = some (some s) := by
  rw [Value.raw, error?, Raw.text?_escaped]
  rfl

theorem count?_raw (n : UInt64) : count? (some (Value.integer n.toNat).raw) = some n := by
  have hn : n.toNat < 2 ^ 64 := n.toNat_lt
  have hvalue : (NumberText.ofInt n.toNat).value? = some (.integer n.toNat) :=
    NumberText.value?_ofInt (by omega) (by omega)
  simp [Value.raw, count?, hvalue]

/-- Names that are written are read. -/
theorem named?_named (members : List (String × Raw)) :
    named? (Raw.named members) = some members := by
  induction members with
  | nil => rfl
  | cons member rest ih =>
    obtain ⟨name, v⟩ := member
    simp only [named?, Raw.named, List.map_cons, List.mapM_cons, Raw.text?_escaped] at ih ⊢
    rw [ih]
    rfl

/-- No name is written twice. -/
theorem isRepeated_memberRaws (d : DatabaseInfo) :
    memberNames.any (isRepeated (Value.memberRaws d.members)) = false := by
  cases herror : d.error <;>
    simp [memberNames, isRepeated, members, herror, Value.memberRaws]

/-- The error of the structure that is written, which stands there if it is set. -/
theorem error?_lookup (d : DatabaseInfo) :
    error? ((Value.memberRaws d.members).lookup "Error") = some d.error := by
  cases herror : d.error with
  | none =>
    have hnone : (Value.memberRaws d.members).lookup "Error" = none := by
      simp [members, herror, Value.memberRaws, List.lookup]
    rw [hnone]
    rfl
  | some error =>
    have hsome : (Value.memberRaws d.members).lookup "Error" = some (Value.string error).raw := by
      simp [members, herror, Value.memberRaws, List.lookup]
    rw [hsome, error?_raw]

theorem ofRaw?_raw (d : DatabaseInfo) : ofRaw? (Value.object d.members).raw = some d := by
  have herror := d.error?_lookup
  rw [Value.raw, ofRaw?, named?_named]
  change (if memberNames.any (isRepeated (Value.memberRaws d.members)) then none else _) = _
  rw [isRepeated_memberRaws, if_neg Bool.false_ne_true, ofParts?]
  simp only [memberNames, List.getElem?_cons_zero, List.getElem?_cons_succ, Option.bind_some,
    herror]
  simp [members, Value.memberRaws, List.lookup, string?_raw, count?_raw]

/-- Statistics are written in one of the layouts that are read, and reading it gives them again. -/
theorem ofText?_text (d : DatabaseInfo) : ofText? d.text = some d := by
  rw [ofText?, text_eq, Value.ofText?_text, Option.bind_some, ofRaw?_raw]

end SeriesGateway.DatabaseInfo
