import SeriesGateway.Url.DomainName.Composed
import SeriesGateway.Url.DomainName.Direction
import SeriesGateway.Url.DomainName.Joining
import SeriesGateway.Url.DomainName.Spelling
import SeriesGateway.Url.Escaped
import SeriesGateway.Url.Punycode

namespace SeriesGateway.Url.DomainName

/-- A name in its one spelling. -/
def spellAll? (cs : List Char) : Option (List Char) := do
  let name := composed (← cs.mapM spell?).flatten
  if name.any isForbiddenInName then none else some name

/-- What a label starts with that is written in ASCII for another. -/
def tag : List Char := ['x', 'n', '-', '-']

def isAscii (cs : List Char) : Bool :=
  cs.all (·.toNat < 0x80)

/-- A label as it is shown and as it is written in ASCII. -/
structure Label where
  shown : List Char
  ascii : List Char
  deriving DecidableEq, Repr

namespace Label

/-- The greatest number of characters that a label not in ASCII has; its text in ASCII may have
twice as many. -/
def longest : Nat := 1000

/-- A label starts with no mark, and has joiners where they fit. -/
def isWellFormed (shown : List Char) : Bool :=
  !shown.head?.any isMark && joinersFit [] shown && (isAscii shown || shown.length ≤ longest)

/-- The label that a tagged one stands for, if it needs the tag and is spelled as names are. -/
def untagged? (tagged : List Char) : Option (List Char) := do
  let text := tagged.drop tag.length
  if !isAscii text || 2 * longest < text.length then none
  let shown ← Punycode.decode? text
  if isAscii shown || shown.contains '.' || spellAll? shown != some shown then none
  return shown

/-- A label of a name in its one spelling. -/
def read? (text : List Char) : Option Label := do
  let shown ← if tag.isPrefixOf text then untagged? text else some text
  if !isWellFormed shown then none
  return ⟨shown, if isAscii text then text else tag ++ Punycode.encode text⟩

end Label

/-- A name in ASCII, label by label. A label that ASCII cannot write stands there under a tag, and
only if it is a label that a name may have. -/
def ascii? (cs : List Char) : Option (List Char) := do
  let name ← spellAll? cs
  let labels ← (name.splitOn '.').mapM Label.read?
  if keepsDirection (labels.map (·.shown)) then some (['.'].intercalate (labels.map (·.ascii)))
  else none

end SeriesGateway.Url.DomainName
