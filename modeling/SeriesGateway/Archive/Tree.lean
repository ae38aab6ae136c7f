import SeriesGateway.Archive.Gzip
import SeriesGateway.Archive.Place

namespace SeriesGateway

/-- What stands at a place. Directories stand for themselves, so one may be empty. -/
inductive Entry where
  | directory
  /-- A file with the bytes in it. -/
  | file (content : ByteArray)

def Entry.unpacked : Entry → Entry
  | .directory => .directory
  | .file content => .file ((Gzip.unpack? content).getD content)

/-- What stands at which place. The root is a directory that has no entry. -/
structure Tree where
  entries : List (Place × Entry) := []

namespace Tree

def find? (t : Tree) (p : Place) : Option Entry :=
  if p = [] then some .directory else t.entries.lookup p

def erase (t : Tree) (p : Place) : Tree :=
  ⟨t.entries.filter fun entry => entry.1 != p⟩

def put (t : Tree) (p : Place) (e : Entry) : Tree :=
  ⟨(t.erase p).entries ++ [(p, e)]⟩

/-- Steps into a directory, which is made if nothing is there. -/
def enter (t : Tree) (here : Place) (step : String) : Option Place × Tree :=
  let next := PathText.walk here step
  if step = ".." then (some next, t)
  else if !PathText.nameFits step then (none, t)
  else match t.find? next with
    | some .directory => (some next, t)
    | some (.file _) => (none, t)
    | none => (some next, t.put next .directory)

/-- Makes all directories on the way. What is made before an obstacle stays. -/
def enterAll (t : Tree) (here : Place) : List String → Option Place × Tree
  | [] => (some here, t)
  | step :: rest =>
    match t.enter here step with
    | (some next, grown) => grown.enterAll next rest
    | (none, grown) => (none, grown)

/-- Makes an empty file, with the directories that lead to it. A file that is there already is
emptied. -/
def create (t : Tree) (home : Place) (p : PathText) : Bool × Tree :=
  if p.parents.any PathText.hasNul then (false, t)
  else match t.enterAll (p.origin home) p.parents with
    | (none, grown) => (false, grown)
    | (some _, grown) =>
      if !p.namesFile then (false, grown)
      else match grown.find? (p.place home) with
        | some .directory => (false, grown)
        | _ => (true, grown.put (p.place home) (.file .empty))

/-- The entries below a place, named from there, with the files unpacked that can be. -/
def below (t : Tree) (home : Place) : List (Place × Entry) :=
  t.entries.filterMap fun (p, e) =>
    if home.isPrefixOf p && p != home then some (p.drop home.length, e.unpacked) else none

end Tree

end SeriesGateway
