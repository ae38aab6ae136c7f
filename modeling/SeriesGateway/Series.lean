import SeriesGateway.Binary64.Reader
import SeriesGateway.Json.Value
import SeriesGateway.Text.Blank
import SeriesGateway.Window

namespace SeriesGateway

/-- One sample per point; not a number where the store has none. -/
abbrev Series := List Binary64

namespace Series

open Json

/-- The number that a sample is, or that its text spells. -/
def sample : Value → Binary64
  | .integer n => .ofInt n
  | .real x => x
  | .string s => (Binary64.ofText? (Text.trim s.toList)).getD .nan
  | _ => .nan

/-- The sample of an entry, which is the first element of a list. -/
def firstSample (entry : Value) : Binary64 :=
  (entry.first?.map sample).getD .nan

/-- The name under which a timestamp stands in an answer. -/
def key (t : Int64) : String :=
  .ofList (Numeral.intText t.toInt)

/-- The samples of an answer at the points of a window. The answer is an object that holds, under
the decimal text of a timestamp, a list whose first element is the sample. -/
def densify (w : Window) (data : Value) : Series :=
  w.timestamps.map fun t => ((data.member? (key t)).map firstSample).getD .nan

def missingCount (s : Series) : Nat :=
  s.countP Binary64.isNan

/-- Whether a value carries no data at all. -/
def isBlankAnswer : Value → Bool
  | .null => true
  | .boolean b => !b
  | .integer n => n == 0
  | .real x => x.isZero
  | .string s => s.isEmpty
  | .array _ | .object _ => false

/-- The value of the body of an answer; `none` where it carries no data. A body that is no JSON
text is an error. -/
def readBody (body : List Char) : Except Unit (Option Value) :=
  if (Text.trim body).isEmpty then .ok none
  else
    match Value.ofText? body with
    | none => .error ()
    | some v => .ok (if isBlankAnswer v then none else some v)

end Series

end SeriesGateway
