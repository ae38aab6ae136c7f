import SeriesGateway.Failure

namespace SeriesGateway

/-- A place in a tree: the names of the directories from the root to it, and its own. -/
abbrev Place := List String

/-- The text of a path. -/
structure PathText where
  text : String
  deriving DecidableEq, Repr

namespace PathText

/-- A name in a directory. A name that starts at the root stands alone. -/
def join (dir name : String) : PathText :=
  if dir.isEmpty || name.startsWith "/" then ⟨name⟩
  else if dir.endsWith "/" then ⟨dir ++ name⟩
  else ⟨dir ++ "/" ++ name⟩

/-- The text between the slashes. -/
def pieces (p : PathText) : List String :=
  (p.text.toList.splitOn '/').map .ofList

/-- The steps of a path; a doubled slash and a lone dot are none. -/
def steps (p : PathText) : List String :=
  p.pieces.filter fun piece => piece != "" && piece != "."

/-- The steps to the directory that holds the place of a path. -/
def parents (p : PathText) : List String :=
  p.steps.dropLast

/-- The text of the path to the directory that holds the place of a path. -/
def parentText (p : PathText) : String :=
  (if p.text.startsWith "/" then "/" else "") ++ "/".intercalate p.parents

/-- The text behind the last slash. -/
def name (p : PathText) : String :=
  p.pieces.getLastD ""

/-- Where the steps of a path begin for someone at `home`. -/
def origin (home : Place) (p : PathText) : Place :=
  if p.text.startsWith "/" then [] else home

/-- A step from a place: two dots lead to the directory that holds it. -/
def walk (here : Place) (step : String) : Place :=
  if step = ".." then here.dropLast else here ++ [step]

/-- The place of a path for someone at `home`. -/
def place (home : Place) (p : PathText) : Place :=
  p.steps.foldl walk (p.origin home)

/-- What no path that is used may hold. -/
def hasNul (s : String) : Bool :=
  s.toList.contains (Char.ofNat 0)

def maxNameBytes : Nat := 255

def nameFits (s : String) : Bool :=
  s.utf8ByteSize ≤ maxNameBytes

/-- Whether the name of a path can be that of a file. -/
def namesFile (p : PathText) : Bool :=
  p.name != "" && p.name != "." && p.name != ".." && !hasNul p.name && nameFits p.name

end PathText

/-- A place that keeps files by the texts of their paths. -/
class Shelf (m : Type → Type) where
  /-- Makes an empty file, with the directories that lead to it. -/
  create : PathText → ExceptT Failure m Unit
  /-- Fills a file that was made. -/
  fill : PathText → ByteArray → ExceptT Failure m Unit
  remove : PathText → m Unit

end SeriesGateway
