import SeriesGateway.Json.Printer

namespace SeriesGateway

/-- The statistics of a database, as a store reports them. -/
structure DatabaseInfo where
  name : String := ""
  spaceUsed : UInt64 := 0
  lastSequence : UInt64 := 0
  headerPosition : UInt64 := 0
  documentCount : UInt64 := 0
  deletedCount : UInt64 := 0
  error : Option String := none
  deriving DecidableEq, Repr

namespace DatabaseInfo

open Json

/-- The members in order. -/
def memberNames : List String :=
  ["DBName", "space_used", "last_seq", "header_pos", "doc_count", "deleted_count", "Error"]

def string? : Option Raw → Option String
  | none => some ""
  | some (.string source) => Raw.text? source
  | some _ => none

def count? : Option Raw → Option UInt64
  | none => some 0
  | some (.number n) =>
    match n.value? with
    | some (.integer n) => if 0 ≤ n then some (.ofNat n.toNat) else none
    | _ => none
  | some _ => none

def error? : Option Raw → Option (Option String)
  | none | some .null => some none
  | some (.string source) => (Raw.text? source).map some
  | some _ => none

/-- The statistics whose members `part` gives. -/
def ofParts? (part : Nat → Option Raw) : Option DatabaseInfo := do
  return {
    name := ← string? (part 0)
    spaceUsed := ← count? (part 1)
    lastSequence := ← count? (part 2)
    headerPosition := ← count? (part 3)
    documentCount := ← count? (part 4)
    deletedCount := ← count? (part 5)
    error := ← error? (part 6) }

/-- Members with their names decoded. -/
def named? (members : List (List Char × Raw)) : Option (List (String × Raw)) :=
  members.mapM fun (source, value) => (Raw.text? source).map fun name => (name, value)

/-- A known member stands at most once. -/
def isRepeated (members : List (String × Raw)) (name : String) : Bool :=
  1 < (members.filter (·.1 = name)).length

/-- Statistics as an object of members, or as a list in their order. What is missing is zero or
empty; unknown members do not count. -/
def ofRaw? : Raw → Option DatabaseInfo
  | .object members => do
    let members ← named? members
    if memberNames.any (isRepeated members) then none
    else ofParts? fun place => (memberNames[place]?).bind fun name => members.lookup name
  | .array items =>
    if memberNames.length < items.length then none else ofParts? fun place => items[place]?
  | _ => none

def ofText? (cs : List Char) : Option DatabaseInfo :=
  (Raw.ofText? cs).bind ofRaw?

def countText (n : UInt64) : List Char :=
  Numeral.text n.toNat

/-- The members with their texts; there is an error only where one is set. -/
def memberTexts (d : DatabaseInfo) : List (String × List Char) :=
  [("DBName", quoted d.name), ("space_used", countText d.spaceUsed),
    ("last_seq", countText d.lastSequence), ("header_pos", countText d.headerPosition),
    ("doc_count", countText d.documentCount), ("deleted_count", countText d.deletedCount)] ++
  d.error.toList.map fun error => ("Error", quoted error)

def text (d : DatabaseInfo) : List Char :=
  objectText d.memberTexts

def render (d : DatabaseInfo) : String :=
  .ofList d.text

end DatabaseInfo

end SeriesGateway
